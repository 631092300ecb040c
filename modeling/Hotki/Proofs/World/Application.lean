import Hotki.World.Application
import Mathlib.Data.Set.Card

/-! An application name stands for a process just if that is the only one of its name. -/

namespace Hotki

open Base

/-- The processes of a name: those of the records that count for it. -/
def answeringPids (applications : List RunningApplication) (appName : String) : Set Int32 :=
  {pid | ∃ application ∈ applications, application.terminated = false ∧ 0 < application.pid ∧
    application.name = some appName ∧ application.pid = pid}

section Resolution

variable (applications : List RunningApplication) (appName : String)

/-- A name is resolved by its processes, listed once each. -/
theorem resolveApplication_pids :
    ∃ pids : List Int32, pids.Nodup ∧ answeringPids applications appName = {pid | pid ∈ pids} ∧
      resolveApplication applications appName = .ofPids pids := by
  refine ⟨_, nodup_sortedDistinct _, ?_, rfl⟩
  ext pid
  show pid ∈ answeringPids applications appName ↔ pid ∈ sortedDistinct _
  rw [mem_sortedDistinct]
  simp [answeringPids, RunningApplication.answers, and_assoc]

/-- Processes listed once each are as many as the list is long. -/
theorem ncard_pids {pids : List Int32} (distinct : pids.Nodup) :
    {pid | pid ∈ pids}.ncard = pids.length := by
  have listed : {pid | pid ∈ pids} = (pids.toFinset : Set Int32) := by
    ext pid
    simp
  rw [listed, Set.ncard_coe_finset, List.toFinset_card_of_nodup distinct]

/-- A name is found just if it has one process. -/
theorem resolveApplication_found (pid : Int32) :
    resolveApplication applications appName = .found pid ↔
      answeringPids applications appName = {pid} := by
  obtain ⟨pids, distinct, listed, resolved⟩ := resolveApplication_pids applications appName
  rw [listed, resolved]
  rcases pids with _ | ⟨only, _ | ⟨second, rest⟩⟩
  · refine ⟨fun found => (by cases found), fun single => ?_⟩
    -- The empty set has no such process.
    have member : pid ∈ ({pid} : Set Int32) := rfl
    rw [← single] at member
    cases member
  · have single : {pid | pid ∈ [only]} = ({only} : Set Int32) := by
      ext pid
      exact List.mem_singleton
    rw [single, Set.singleton_eq_singleton_iff]
    exact ⟨fun found => (by cases found; rfl), fun same => by rw [same]; rfl⟩
  · refine ⟨fun found => (by cases found), fun single => ?_⟩
    -- Two of the list would be the same process.
    have count := ncard_pids distinct
    rw [single, Set.ncard_singleton] at count
    simp only [List.length_cons] at count
    omega

/-- A name is ambiguous just if it has several processes, and it says how many. -/
theorem resolveApplication_ambiguous (count : Nat) :
    resolveApplication applications appName = .ambiguous count ↔
      2 ≤ count ∧ (answeringPids applications appName).ncard = count := by
  -- There are no answering processes, one, or several.
  obtain ⟨pids, distinct, listed, resolved⟩ := resolveApplication_pids applications appName
  rw [listed, resolved, ncard_pids distinct]
  rcases pids with _ | ⟨first, _ | ⟨second, rest⟩⟩
  · refine ⟨fun ambiguous => (by cases ambiguous), fun several => ?_⟩
    rw [List.length_nil] at several
    omega
  · refine ⟨fun ambiguous => (by cases ambiguous), fun several => ?_⟩
    rw [List.length_singleton] at several
    omega
  · refine ⟨fun ambiguous => ?_, fun several => by rw [← several.2]; rfl⟩
    obtain rfl : (first :: second :: rest).length = count := by
      cases ambiguous
      rfl
    exact ⟨by simp only [List.length_cons]; omega, rfl⟩

/-- A name is not running just if it has no process. -/
theorem resolveApplication_notRunning :
    resolveApplication applications appName = .notRunning ↔
      answeringPids applications appName = ∅ := by
  obtain ⟨pids, distinct, listed, resolved⟩ := resolveApplication_pids applications appName
  rw [listed, resolved, ← Set.ncard_eq_zero (List.finite_toSet pids), ncard_pids distinct]
  rcases pids with _ | ⟨first, _ | ⟨second, rest⟩⟩
  · exact ⟨fun _ => rfl, fun _ => rfl⟩
  · exact ⟨fun absent => (by cases absent), fun counted => (by cases counted)⟩
  · exact ⟨fun absent => (by cases absent), fun counted => (by cases counted)⟩

end Resolution

/-- Names with the same processes are resolved alike. -/
theorem resolveApplication_congr {applications others : List RunningApplication}
    {appName : String} (same : answeringPids others appName = answeringPids applications appName) :
    resolveApplication others appName = resolveApplication applications appName := by
  cases resolved : resolveApplication applications appName with
  | found pid => rwa [resolveApplication_found, same, ← resolveApplication_found]
  | notRunning => rwa [resolveApplication_notRunning, same, ← resolveApplication_notRunning]
  | ambiguous count =>
    rwa [resolveApplication_ambiguous, same, ← resolveApplication_ambiguous]

end Hotki
