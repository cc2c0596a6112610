import PgVisor.AuditLog
import PgVisor.ForwardRestores
import PgVisor.RowStatements

/-!
# The audit of dangerous statements

The session records statements that drop, truncate or delete, with an instant to recover to
just before them; the dashboard records a row that it deleted or updated. What is recorded as a
recovery target is a text, and operators copy it into the restore form.

Rust's upper case is a parameter. Slicing a text inside a character panics.
-/

namespace PgVisor.SqlAudit

open Text Backup Audit RowStatements
open SqlExecutor (SqlQueryResult)

variable {chrono : Chrono} {now : DateTime} {raw sql : String} {user database : Option String}
  {drafts : List Draft}

/-- `&text[..limit]` in bytes; nothing is returned where it panics. -/
def sliceTo : Nat → List Char → Option (List Char)
  | 0, _ => some []
  | _ + 1, [] => none
  | limit + 1, c :: rest =>
    if c.utf8Size ≤ limit + 1 then (sliceTo (limit + 1 - c.utf8Size) rest).map (c :: ·) else none

/-- The statement as a record shows it, cut to 300 bytes. -/
def snippet (sql : String) : Option String :=
  if 300 < sql.utf8ByteSize then
    (sliceTo 300 sql.toList).map fun kept => String.ofList kept ++ "..."
  else some sql

/-- The upper case of Rust, and whether every DELETE counts. -/
structure Auditor where
  toUppercase : List Char → List Char
  /-- `PGVISOR_AUDIT_DELETE` is set. -/
  auditDelete : Bool

namespace Auditor

variable (auditor : Auditor)

/-- The trimmed lines that do not start as comments, in upper case. -/
def upper (sql : String) : List Char :=
  let kept := ((lines sql.toList).map trim).filter fun line =>
    !"--".toList.isPrefixOf line && !"/*".toList.isPrefixOf line
  auditor.toUppercase (trim ([' '].intercalate kept))

/-- Whether the statement drops, truncates or deletes. -/
def isDangerous (sql : String) : Bool :=
  let starts (word : String) := word.toList.isPrefixOf (auditor.upper sql)
  starts "DROP TABLE" || starts "DROP DATABASE" || starts "DROP SCHEMA" || starts "TRUNCATE" ||
    starts "DELETE" && (auditor.auditDelete || !contains "WHERE".toList (auditor.upper sql))

/-- Whether the statement changes roles or privileges. -/
def isUserPermission (sql : String) : Bool :=
  ["CREATE ROLE", "CREATE USER", "DROP ROLE", "DROP USER", "ALTER ROLE", "ALTER USER", "GRANT ",
    "REVOKE "].any fun word => word.toList.isPrefixOf (auditor.upper sql)

/-- An event about a statement of a user on a database. -/
def draft (occurredAt : DateTime) (kind : AuditEventKind) (subject : String)
    (user database : Option String) (sql : String) (pitrTarget : Option String) :
    Option (List Draft) :=
  (snippet sql).map fun text =>
    [{ occurredAt, kind, nodeId := none, nodeAddress := none
       detail := subject ++ " SQL executed by '" ++ user.getD "unknown" ++ "' on '" ++
         database.getD "unknown" ++ "': " ++ text
       pitrTarget }]

/-- The audit step of `handle_query`: the events to append, with three readings of the clock.
The instant to recover to is a second before the first one. -/
def audit (chrono : Chrono) (clock : Nat → DateTime) (user database : Option String)
    (sql : String) : Option (List Draft) :=
  let pitrCandidate := String.ofList (utcTime chrono (clock 0 - 1000000000))
  let dangerous :=
    if auditor.isDangerous sql then
      draft (clock 1) .dangerousSql "Dangerous" user database sql (some pitrCandidate)
    else some []
  let permission :=
    if auditor.isUserPermission sql then
      draft (clock 2) .userPermission "User/permission" user database sql none
    else some []
  dangerous.bind fun first => permission.map fun second => first ++ second

end Auditor

/-- What `api_delete_table_row` and `api_update_table_row` record as a target: the JSON text of
what was changed. The count of rows becomes a number of `serde_json`. -/
def rowTarget {N : Type} (serde : Serde N) (number : Nat → N) (table : String)
    (request : RowRequest N) (result : SqlQueryResult) : String :=
  match request with
  | .delete primaryKeys =>
    String.ofList (serde.text (.object [("table", .string table),
      ("primary_keys", .object primaryKeys.entries),
      ("affected_rows", .number (number (affectedRows "DELETE " result)))]))
  | .update primaryKeys values =>
    String.ofList (serde.text (.object [("table", .string table),
      ("primary_keys", .object primaryKeys.entries), ("values", .object values.entries),
      ("affected_rows", .number (number (affectedRows "UPDATE " result)))]))

/-! ### What is read back -/

/-- A text that is not read is refused. -/
theorem parseTargetTimestamp_unread (unread : readTarget chrono (trim raw.toList) = none) :
    ∃ message, parseTargetTimestamp chrono now raw = .error message := by
  cases accepted : parseTargetTimestamp chrono now raw with
  | error message => exact ⟨message, rfl⟩
  | ok parsed =>
    rw [(parseTargetTimestamp_ok_iff.mp accepted).2.1] at unread
    cases unread

/-- A target is refused as it is written. -/
theorem utcTime_refused (conforms : chrono.Conforms) (now instant : DateTime) :
    ∃ message, parseTargetTimestamp chrono now (String.ofList (utcTime chrono instant)) =
      .error message := by
  apply parseTargetTimestamp_unread
  rw [String.toList_ofList]
  exact readTarget_utcTime conforms instant

/-- Filling up leaves the first character as it is. -/
theorem normalized_cons {first : Char} (solid : isWhitespace first = false) (rest : List Char) :
    ∃ text, normalized (first :: rest) = first :: text := by
  obtain ⟨word, others, split⟩ := words_cons solid rest
  unfold normalized
  rw [split]
  split
  · rename_i shape
    cases shape
    simp only [filledTime]
    split
    all_goals exact ⟨_, rfl⟩
  · exact ⟨_, rfl⟩

/-- So does trimming, unless it is blank. -/
theorem trim_cons {first : Char} (solid : isWhitespace first = false) (rest : List Char) :
    ∃ text, trim (first :: rest) = first :: text := by
  have started : trimStart (first :: rest) = first :: rest := List.dropWhile_cons_of_neg (by
    simp [solid])
  rw [trim, started]
  exact ⟨_, rdropWhile_keep solid [] rest⟩

/-- No layout begins with the brace of an object. -/
theorem object_refused (conforms : chrono.Conforms) (now : DateTime) (rest : List Char) :
    ∃ message, parseTargetTimestamp chrono now (String.ofList ('\x7b' :: rest)) =
      .error message := by
  have other : startsTime '\x7b' = false := by decide
  have solid : isWhitespace '\x7b' = false := by decide
  obtain ⟨inside, trimmed⟩ := trim_cons solid rest
  obtain ⟨text, filled⟩ := normalized_cons solid inside
  apply parseTargetTimestamp_unread
  rw [String.toList_ofList, trimmed]
  cases read : readTarget chrono ('\x7b' :: inside) with
  | none => rfl
  | some instant =>
    rcases reads_of_readTarget read with plain | changed
    · exact absurd plain (not_reads_of_starts conforms other)
    · rw [filled] at changed
      exact absurd changed (not_reads_of_starts conforms other)

/-- What is recorded of a row is refused. -/
theorem rowTarget_refused (conforms : chrono.Conforms) {N : Type} {serde : Serde N}
    (braced : ∀ fields, ∃ rest, serde.text (.object fields) = '\x7b' :: rest) (number : Nat → N)
    (now : DateTime) (table : String) (request : RowRequest N) (result : SqlQueryResult) :
    ∃ message, parseTargetTimestamp chrono now (rowTarget serde number table request result) =
      .error message := by
  unfold rowTarget
  split
  all_goals
    obtain ⟨rest, written⟩ := braced _
    rw [written]
    exact object_refused conforms now rest

/-- A drafted event has the target it was drafted with. -/
theorem draft_target {occurredAt kind subject pitrTarget}
    (drafted : Auditor.draft occurredAt kind subject user database sql pitrTarget = some drafts) :
    ∀ draft ∈ drafts, draft.pitrTarget = pitrTarget := by
  obtain ⟨text, -, rfl⟩ := Option.map_eq_some_iff.mp drafted
  intro draft member
  rw [List.mem_singleton.mp member]

/-- What the audit step records is drafted about the statement, with a second before the
first reading of the clock as the target or with none. -/
theorem mem_audit {auditor : Auditor} {clock : Nat → DateTime}
    (audited : auditor.audit chrono clock user database sql = some drafts) {draft : Draft}
    (member : draft ∈ drafts) : ∃ occurredAt kind, ∃ subject ∈ ["Dangerous", "User/permission"],
      ∃ target listed,
        (∀ text ∈ target, text = String.ofList (utcTime chrono (clock 0 - 1000000000))) ∧
        Auditor.draft occurredAt kind subject user database sql target = some listed ∧
        draft ∈ listed := by
  obtain ⟨dangerous, first, audited⟩ := Option.bind_eq_some_iff.mp audited
  obtain ⟨permission, second, rfl⟩ := Option.map_eq_some_iff.mp audited
  rcases List.mem_append.mp member with earlier | later
  · split at first
    · exact ⟨_, _, "Dangerous", by simp, _, _, by simp, first, earlier⟩
    · cases first
      cases earlier
  · split at second
    · exact ⟨_, _, "User/permission", by simp, _, _, by simp, second, later⟩
    · cases second
      cases later

/-- The only target that is recorded lies a second before the first reading of the clock. -/
theorem audit_target {auditor : Auditor} {clock : Nat → DateTime}
    (audited : auditor.audit chrono clock user database sql = some drafts) {draft : Draft}
    (member : draft ∈ drafts) {target : String} (recorded : draft.pitrTarget = some target) :
    target = String.ofList (utcTime chrono (clock 0 - 1000000000)) := by
  obtain ⟨_, _, _, -, _, listed, early, drafted, member⟩ := mem_audit audited member
  exact early target (draft_target drafted draft member ▸ recorded)

/-- The quick path passes on a target as it is written. -/
theorem quickRestore_target {service : RestoreService}
    {call : RestoreCall} (called : (quickRestore chrono service now raw).call = some call) :
    ∃ parsed, call.targetTime = some (String.ofList (utcTime chrono parsed)) := by
  unfold quickRestore at called
  split at called
  · cases called
  rename_i parsed read
  split at called
  · cases called
  split at called
  · cases called
  · cases called
    exact ⟨parsed, rfl⟩

/-- No text that is recorded as a recovery target, and none that the quick path passes on, is
accepted as one. Of `serde_json` it is taken that an object begins with a brace. -/
theorem recorded_targets_refused (chrono : Chrono) (conforms : chrono.Conforms) {N : Type}
    (serde : Serde N)
    (braced : ∀ fields, ∃ rest, serde.text (.object fields) = '\x7b' :: rest) (now : DateTime) :
    (∀ (auditor : Auditor) clock user database sql drafts,
      auditor.audit chrono clock user database sql = some drafts →
        ∀ draft ∈ drafts, ∀ target ∈ draft.pitrTarget,
          target = String.ofList (utcTime chrono (clock 0 - 1000000000)) ∧
            ∃ message, parseTargetTimestamp chrono now target = .error message) ∧
    (∀ number table request result, ∃ message,
      parseTargetTimestamp chrono now (rowTarget serde number table request result) =
        .error message) ∧
    ∀ service before raw call, (quickRestore chrono service before raw).call = some call →
      ∃ target ∈ call.targetTime,
        ∃ message, parseTargetTimestamp chrono now target = .error message := by
  refine ⟨?_, fun number => rowTarget_refused conforms braced number now, ?_⟩
  · intro auditor clock user database sql drafts audited draft member target recorded
    have same := audit_target audited member recorded
    refine ⟨same, ?_⟩
    rw [same]
    exact utcTime_refused conforms now _
  · intro service before raw call called
    obtain ⟨parsed, passed⟩ := quickRestore_target called
    exact ⟨_, passed, utcTime_refused conforms now parsed⟩

/-- A writer of times in September 2026. The texts below are read by no layout. -/
def writingChrono : Chrono :=
  { septemberChrono with naiveParseFromStr := fun _ _ => none }

theorem writingChrono_unread (text : List Char) : ¬ writingChrono.Reads text := by
  rintro (strict | zoned | ⟨layout, -, plain⟩)
  · cases strict
  · cases zoned
  · cases plain

theorem writingChrono_conforms : writingChrono.Conforms where
  starts text reads := absurd reads (writingChrono_unread text)
  ends text reads := absurd reads (writingChrono_unread text)
  literal instant := timeIn_utcLayout _ _ _
  offset text instant read := by cases read
  fraction text instant read := by cases read
  filled text instant read := by cases read

/-- The JSON text of one deleted row. -/
def rowSerde : Serde Nat where
  numberText value := Nat.toDigits 10 value
  text _ := "\x7b\"affected_rows\":1,\"primary_keys\":\x7b\"id\":7\x7d,\"table\":\"t\"\x7d".toList

/-- The target of a dropped table is refused later that day. -/
theorem dropped_table_refused :
    ∃ message, parseTargetTimestamp writingChrono 1789517300000000000 "2026-09-16 00:07:10 UTC" =
      .error message := by
  have audited : ((⟨toAsciiUppercase, false⟩ : Auditor).audit writingChrono
      (fun _ => 1789517231000000000) (some "app") (some "shop")
      "drop table accounts;").map (·.map Draft.pitrTarget) =
        some [some "2026-09-16 00:07:10 UTC"] := by decide +kernel
  obtain ⟨drafts, found, targets⟩ := Option.map_eq_some_iff.mp audited
  obtain ⟨draft, rfl, target⟩ := List.map_eq_singleton_iff.mp targets
  exact ((recorded_targets_refused writingChrono writingChrono_conforms rowSerde
    (fun _ => ⟨_, rfl⟩) 1789517300000000000).1 _ _ _ _ _ _ found draft (by simp) _ target).2

/-- A dropped table is recorded with an instant that the restore form does not take, and so is
a deleted row. -/
theorem dropped_table_target_refused :
    let auditor : Auditor := ⟨toAsciiUppercase, false⟩
    let target := "2026-09-16 00:07:10 UTC"
    let row := rowTarget rowSerde id "t"
      (.delete ⟨[("id", .number 7)], List.nodup_singleton "id"⟩)
      { columns := ["Command"], rows := [["DELETE 1"]], rowCount := 1, truncated := false }
    ((auditor.audit writingChrono (fun _ => 1789517231000000000) (some "app") (some "shop")
      "drop table accounts;").map (·.map Draft.pitrTarget)) = some [some target] ∧
    (parseTargetTimestamp writingChrono 1789517300000000000 target).isOk = false ∧
    (parseTargetTimestamp writingChrono 1789517300000000000 row).isOk = false := by
  refine ⟨by decide +kernel, by decide +kernel, by decide +kernel⟩

/-! ### Long statements -/

theorem sliceTo_eq_some_iff (limit : Nat) (text front : List Char) :
    sliceTo limit text = some front ↔
      front <+: text ∧ (String.ofList front).utf8ByteSize = limit := by
  fun_induction sliceTo limit text generalizing front with
  | case1 text =>
    rw [String.utf8ByteSize_eq_zero_iff, String.ofList_eq_empty_iff]
    grind
  | case2 limit =>
    simp only [reduceCtorEq, List.prefix_nil, false_iff, not_and]
    rintro rfl
    simp
  | case3 limit c rest fits ih =>
    cases front with
    | nil => simp
    | cons d front =>
      simp only [Option.map_eq_some_iff, ih, List.cons.injEq, List.cons_prefix_cons,
        String.ofList_cons, String.utf8ByteSize_append, String.utf8ByteSize_singleton]
      grind
  | case4 limit c rest large =>
    cases front with
    | nil => simp
    | cons d front =>
      simp only [reduceCtorEq, List.cons_prefix_cons, String.ofList_cons,
        String.utf8ByteSize_append, String.utf8ByteSize_singleton, false_iff]
      grind

/-- A text has a snippet if it is short or a character ends at byte 300, and the snippet is a
beginning of the text, with a mark where it was cut. -/
theorem snippet_eq_some_iff (shown : String) : snippet sql = some shown ↔
    sql.utf8ByteSize ≤ 300 ∧ shown = sql ∨
      300 < sql.utf8ByteSize ∧
        ∃ front rest, sql = front ++ rest ∧ front.utf8ByteSize = 300 ∧ shown = front ++ "..." := by
  unfold snippet
  split
  · rename_i long
    simp only [Option.map_eq_some_iff, sliceTo_eq_some_iff]
    constructor
    · rintro ⟨front, ⟨⟨rest, whole⟩, size⟩, rfl⟩
      refine .inr ⟨long, _, String.ofList rest, ?_, size, rfl⟩
      rw [← String.ofList_append, whole, String.ofList_toList]
    · rintro (⟨short, -⟩ | ⟨-, front, rest, rfl, size, rfl⟩)
      · omega
      · exact ⟨front.toList, ⟨⟨rest.toList, by simp⟩, by simpa using size⟩, by simp⟩
  · grind

theorem snippet_isSome_iff : (snippet sql).isSome = true ↔ (300 < sql.utf8ByteSize →
    ∃ front rest, sql = front ++ rest ∧ front.utf8ByteSize = 300) := by
  simp only [Option.isSome_iff_exists, snippet_eq_some_iff]
  grind

/-- What is recorded about a statement ends in its snippet. -/
def Shows (user database : Option String) (sql : String) (draft : Draft) : Prop :=
  ∃ subject ∈ ["Dangerous", "User/permission"], ∃ front rest mark, sql = front ++ rest ∧
    (rest = "" ∧ mark = "" ∨ front.utf8ByteSize = 300 ∧ mark = "...") ∧
    draft.detail = subject ++ " SQL executed by '" ++ user.getD "unknown" ++ "' on '" ++
      database.getD "unknown" ++ "': " ++ (front ++ mark)

theorem draft_shows {occurredAt kind subject pitrTarget}
    (known : subject ∈ ["Dangerous", "User/permission"])
    (drafted : Auditor.draft occurredAt kind subject user database sql pitrTarget = some drafts) :
    ∀ draft ∈ drafts, Shows user database sql draft := by
  obtain ⟨text, cut, rfl⟩ := Option.map_eq_some_iff.mp drafted
  intro draft member
  rw [List.mem_singleton.mp member]
  rcases (snippet_eq_some_iff text).1 cut with ⟨-, rfl⟩ | ⟨-, front, rest, whole, size, rfl⟩
  · exact ⟨subject, known, text, "", "", by simp, .inl ⟨rfl, rfl⟩, by simp⟩
  · exact ⟨subject, known, front, rest, "...", whole, .inr ⟨size, rfl⟩, rfl⟩

/-- The audit step does not panic exactly if the text is not recorded, is short, or has a
character that ends at byte 300. What it records then is a beginning of the text. -/
theorem audit_completes_iff (auditor : Auditor) (chrono : Chrono) (clock : Nat → DateTime)
    (user database : Option String) (sql : String) :
    ((auditor.audit chrono clock user database sql).isSome = true ↔
      ((auditor.isDangerous sql || auditor.isUserPermission sql) = true →
        300 < sql.utf8ByteSize →
          ∃ front rest, sql = front ++ rest ∧ front.utf8ByteSize = 300)) ∧
    ∀ drafts, auditor.audit chrono clock user database sql = some drafts →
      ∀ draft ∈ drafts, Shows user database sql draft := by
  rw [← snippet_isSome_iff]
  constructor
  · unfold Auditor.audit Auditor.draft
    cases auditor.isDangerous sql <;> cases auditor.isUserPermission sql <;>
      cases snippet sql <;> simp only [reduceIte, Bool.false_eq_true, Option.map_some,
        Option.map_none, Option.bind_some, Option.bind_none, Option.isSome, Bool.or_true,
        Bool.or_false, imp_self, forall_true_left, forall_false]
  · intro drafts audited draft member
    obtain ⟨_, _, subject, known, _, listed, -, drafted, member⟩ := mem_audit audited member
    exact draft_shows known drafted draft member

/-- A table whose name has two bytes to a character. -/
theorem long_name_panics :
    let auditor : Auditor := ⟨toAsciiUppercase, false⟩
    auditor.audit shortCodec.chrono (fun _ => 0) none none
      (String.ofList ("DROP TABLE ".toList ++ List.replicate 145 'é')) = none := by
  decide +kernel

end PgVisor.SqlAudit
