import PgVisor.StateMachineRuns

/-!
# Catching up from a snapshot

A snapshot carries the serialized data, and beside it the last applied log id and the
membership that installation writes over those of the data. The builder captures all three
at once, so they agree whatever the leader applies before the snapshot is built. A follower
that installs it and applies the remaining entries, in any batches, arrives at the leader's
data from any state it was in. A payload that does not decode changes nothing.
-/

namespace PgVisor.ClusterState

open WriteAheadLog

variable {Membership : Type}

/-- A machine after batches of entries. -/
def applyBatches (format : DataFormat Membership) (machine : StateMachine Membership)
    (batches : List (List (Entry Membership))) : StateMachine Membership :=
  batches.foldl (fun machine batch => (apply format machine batch).1) machine

/-- Once something was applied, the current snapshot is the one a builder would make. -/
theorem current_snapshot_built (format : DataFormat Membership)
    {machine : StateMachine Membership} {lastApplied : LogId}
    (applied : machine.data.lastApplied = some lastApplied) : getCurrentSnapshot format machine =
      some (buildSnapshot format (getSnapshotBuilder format machine)) := by
  simp only [getCurrentSnapshot, applied, buildSnapshot, getSnapshotBuilder, Option.getD_some]

/-- Installing a built snapshot replaces the data by that of the builder's machine, in
memory and on disk. -/
theorem install_built (format : DataFormat Membership) (source follower : StateMachine Membership) :
    let snapshot := buildSnapshot format (getSnapshotBuilder format source)
    ∃ installed, installSnapshot format follower snapshot.metadata snapshot.snapshot =
        (.ok (), installed) ∧ installed.data = source.data ∧
      load format installed.file.content = .ok (some source.data) := by
  intro snapshot
  have restored : restoreFromSnapshot format follower snapshot.snapshot =
      (.ok (), persistToDisk format { follower with data := source.data }) := by
    have read : format.deserialize snapshot.snapshot = some source.data :=
      format.deserialize_serialize source.data
    rw [restoreFromSnapshot, read]
  -- the log id and membership written over the data are those the data has
  refine ⟨persistToDisk format (persistToDisk format { follower with data := source.data }),
    ?_, rfl, load_image format source.data⟩
  rw [installSnapshot, restored]
  rfl

/-- A follower in any state that installs the snapshot of a leader and then applies what the
leader applied since ends with the leader's data, however the entries are batched and
however much the leader applied before the snapshot was built; the current snapshot serves
as well as a builder's. An undecodable payload is refused and changes nothing. -/
theorem snapshot_catches_up (format : DataFormat Membership) :
    (∀ (leader follower : StateMachine Membership)
        (before between rest remaining : List (List (Entry Membership))),
      remaining.flatten = between.flatten ++ rest.flatten →
      let captured := applyBatches format leader before
      let builder := getSnapshotBuilder format captured
      let building := applyBatches format captured between
      let final := applyBatches format building rest
      ∀ snapshot, snapshot = buildSnapshot format builder ∨
          getCurrentSnapshot format captured = some snapshot →
        ∃ installed, installSnapshot format follower snapshot.metadata snapshot.snapshot =
            (.ok (), installed) ∧ (applyBatches format installed remaining).data = final.data) ∧
    ∀ (follower : StateMachine Membership) metadata payload, format.deserialize payload = none →
        installSnapshot format follower metadata payload = (.error .serialization, follower) := by
  constructor
  · intro leader follower before between rest remaining same captured builder building final
      snapshot made
    have built : snapshot = buildSnapshot format builder := by
      rcases made with direct | current
      · exact direct
      cases applied : captured.data.lastApplied with
      | none => simp [getCurrentSnapshot, applied] at current
      | some lastApplied =>
        rw [current_snapshot_built format applied] at current
        exact (Option.some.inj current).symm
    obtain ⟨installed, success, data, -⟩ := install_built format captured follower
    refine ⟨installed, built ▸ success, ?_⟩
    have finalData : final.data = folded captured.data (between.flatten ++ rest.flatten) := by
      simp only [final, building, applyBatches, apply_batches_data, folded_append]
    rw [finalData, ← same, ← data]
    exact apply_batches_data format installed remaining
  · intro follower metadata payload undecodable
    simp only [installSnapshot, restoreFromSnapshot, undecodable]

/-- A follower that was somewhere else. -/
def strayFollower : StateMachine Nat where
  data := { (.default : StateMachineData Nat) with
    lastApplied := some ⟨1, 3, 1⟩
    lastMembership := ⟨some ⟨1, 3, 1⟩, 9⟩ }
  file := .missing

/-- The leader applies a second entry between taking the builder and building; the follower
applies the second and third entry at once. An empty payload is refused. -/
theorem stray_follower_catches_up :
    let leader : StateMachine Nat := persistToDisk tallyDataFormat ⟨.default, .missing⟩
    let batch := fun index => threeEntries.entries.drop index |>.take 1
    let captured := applyBatches tallyDataFormat leader [batch 0]
    let snapshot := buildSnapshot tallyDataFormat (getSnapshotBuilder tallyDataFormat captured)
    (∃ installed, installSnapshot tallyDataFormat strayFollower snapshot.metadata
        snapshot.snapshot = (.ok (), installed) ∧
      (applyBatches tallyDataFormat installed [threeEntries.entries.drop 1]).data =
        (applyBatches tallyDataFormat (applyBatches tallyDataFormat captured [batch 1])
          [batch 2]).data) ∧ installSnapshot tallyDataFormat strayFollower snapshot.metadata [] =
      (.error .serialization, strayFollower) := by
  intro leader batch captured snapshot
  obtain ⟨catchesUp, refused⟩ := snapshot_catches_up tallyDataFormat
  exact ⟨catchesUp leader strayFollower [batch 0] [batch 1] [batch 2]
    [threeEntries.entries.drop 1] rfl snapshot (.inl rfl),
    refused strayFollower snapshot.metadata [] rfl⟩

end PgVisor.ClusterState
