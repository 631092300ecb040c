import Hotki.Proofs.Server.CommandLine

/-! Every process that a client spawns is in somebody's hands until its exit status is read. -/

namespace Hotki

open Base

/-- The spawned process that a call has in hand. -/
def ClientCall.child : ClientCall → Option Nat
  | .connecting spawned _ => spawned
  | .failing child | .abandoning child | .stopping child | .dropping child _ => some child
  | _ => none

/-- The process that a call waits for, having told it to terminate. -/
def ClientCall.waitsFor : ClientCall → Option Nat
  | .abandoning child | .stopping child => some child
  | _ => none

/-- The process whose handle a call is about to drop. -/
def ClientCall.drops : ClientCall → Option Nat
  | .dropping child _ => some child
  | _ => none

namespace ServerChild

/-- Whether neither the status of a process can be read nor the process be found. -/
def isMissing (child : ServerChild) (answers : DropAnswers) : Bool :=
  !child.reaped && !child.alive && !answers.readable && !answers.found

/-- Whether a process is told to terminate, and its status is not read after that either. -/
def isUnwaited (child : ServerChild) (answers : DropAnswers) : Bool :=
  !child.reaped && !answers.waited && (child.alive || (!answers.readable && answers.found))

/-- The drop of its handle reads the status of a process, save in these two cases. -/
theorem release_reaped (child : ServerChild) (answers : DropAnswers) :
    (child.release answers).reaped = !(child.isMissing answers || child.isUnwaited answers) := by
  obtain ⟨config, alive, signalled, reaped⟩ := child
  obtain ⟨readable, found, waited⟩ := answers
  cases reaped <;> cases alive <;> cases readable <;> cases found <;> cases waited <;> rfl

/-- The drop of its handle does not take back the signal of a process. -/
theorem release_signalled (child : ServerChild) (answers : DropAnswers)
    (told : child.signalled = true ∨ child.isUnwaited answers = true) :
    (child.release answers).signalled = true := by
  obtain ⟨config, alive, signalled, reaped⟩ := child
  obtain ⟨readable, found, waited⟩ := answers
  cases reaped <;> cases alive <;> cases readable <;> cases found <;> cases waited <;>
    simp_all [release, isUnwaited, reap, signal, finish]

/-- A process whose status the drop of its handle reads has exited. -/
theorem release_alive (child : ServerChild) (answers : DropAnswers)
    (dead : child.reaped = true → child.alive = false)
    (reaped : (child.release answers).reaped = true) : (child.release answers).alive = false := by
  obtain ⟨config, alive, signalled, reaped'⟩ := child
  obtain ⟨readable, found, waited⟩ := answers
  cases reaped' <;> cases alive <;> cases readable <;> cases found <;> cases waited <;>
    simp_all [release, reap, signal, finish]

end ServerChild

namespace ManagedClient

variable {state next : ManagedClient}

/-- Whether a spawned process is tracked, or in the hands of the call in progress. -/
def Holds (state : ManagedClient) (child : Nat) : Prop :=
  state.managed.server = some child ∨ state.call.child = some child

/-- The process that a call is about to stop. -/
def stopsNow (state : ManagedClient) : Option Nat :=
  match state.call with
  | .failing child => some child
  | .halting => state.managed.server
  | _ => none

/-- Whether a move lets a process go because its status cannot be read. -/
def Unread (state : ManagedClient) (move : ClientMove) (child : Nat) : Prop :=
  move = .stop false ∧ state.stopsNow = some child ∧ state.isReaped child = false

/-- Whether a move ends the wait for a process that has not been seen to exit. -/
def CutShort (state : ManagedClient) (move : ClientMove) (child : Nat) : Prop :=
  (move = .timedOut .failed ∨ move = .timedOut .unwaited ∨ move = .cancel) ∧
    state.call.waitsFor = some child ∧ state.isReaped child = false

/-- Whether a move drops the handle of a process that can be neither read nor found. -/
def Missing (state : ManagedClient) (move : ClientMove) (child : Nat) : Prop :=
  ∃ answers, move = .released answers ∧ state.call.drops = some child ∧
    state.children[child]?.any (·.isMissing answers) = true

/-- Whether a move drops the handle of a process and waits for it in vain. -/
def Unwaited (state : ManagedClient) (move : ClientMove) (child : Nat) : Prop :=
  ∃ answers, move = .released answers ∧ state.call.drops = some child ∧
    state.children[child]?.any (·.isUnwaited answers) = true

/-- Whether a move lets a process go without having told it to terminate. -/
def Untold (state : ManagedClient) (move : ClientMove) (child : Nat) : Prop :=
  state.Unread move child ∨ state.Missing move child

/-- Whether a move lets a process go that has not been seen to exit. -/
def Loses (state : ManagedClient) (move : ClientMove) (child : Nat) : Prop :=
  state.Untold move child ∨ state.CutShort move child ∨ state.Unwaited move child

/-- Only stopping a process, waiting for it and dropping its handle can lose it. -/
theorem Loses.move {move : ClientMove} {child : Nat} (loses : state.Loses move child) :
    move = .stop false ∨ (∃ outcome, move = .timedOut outcome ∧ outcome ≠ .waited) ∨
      move = .cancel ∨ ∃ answers, move = .released answers := by
  -- The four ways in which a process is lost are tied to four kinds of move.
  rcases loses with (unread | missing) | cut | unwaited
  · exact .inl unread.1
  · obtain ⟨answers, same, _⟩ := missing
    exact .inr (.inr (.inr ⟨answers, same⟩))
  · obtain ⟨same | same | same, _⟩ := cut
    · exact .inr (.inl ⟨_, same, by simp⟩)
    · exact .inr (.inl ⟨_, same, by simp⟩)
    · exact .inr (.inr (.inl same))
  · obtain ⟨answers, same, _⟩ := unwaited
    exact .inr (.inr (.inr ⟨answers, same⟩))

/-- Stopping a process loses it only if its status cannot be read. -/
theorem Loses.of_stop {readable : Bool} {child : Nat}
    (loses : state.Loses (.stop readable) child) : state.Unread (.stop readable) child := by
  rcases loses with (unread | ⟨_, same, _⟩) | ⟨same | same | same, _⟩ | ⟨_, same, _⟩
  · exact unread
  all_goals cases same

/-- Whether a spawned process was told to terminate. -/
def isSignalled (state : ManagedClient) (child : Nat) : Bool :=
  state.children[child]?.any (·.signalled)

/-- The spawned processes, with those that were lost and those of them that were told nothing. -/
private structure Accounted (lost untold : Nat → Prop) (state : ManagedClient) : Prop where
  within : ∀ index, state.Holds index → index < state.children.length
  apart : ∀ index, state.managed.server = some index → state.call.child ≠ some index
  waiting : ∀ index, state.call.waitsFor = some index → state.isSignalled index = true
  fate : ∀ (index : Nat) (child : ServerChild), state.children[index]? = some child →
    (child.reaped = false ∧ ¬ state.Holds index ↔ lost index)
  spawned : ∀ index, lost index → index < state.children.length
  told : ∀ (index : Nat) (child : ServerChild), state.children[index]? = some child →
    child.signalled = false → child.reaped = false → state.Holds index ∨ untold index
  dead : ∀ (index : Nat) (child : ServerChild), state.children[index]? = some child →
    child.reaped = true → child.alive = false
  gone : state.call = .gone → state.managed.server = none

/-- A changed process among the others. -/
theorem modifyChild_getElem? {child index : Nat} {change : ServerChild → ServerChild}
    {found : ServerChild} :
    (state.modifyChild child change).children[index]? = some found ↔
      ∃ before, state.children[index]? = some before ∧
        found = if child = index then change before else before := by
  show (state.children.modify child change)[index]? = some found ↔ _
  rw [List.getElem?_modify]
  cases state.children[index]? with
  | none => simp
  | some before => by_cases here : child = index <;> simp [here, eq_comm]

/-- A process that was reaped stays so under a change that keeps this. -/
theorem isReaped_iff {index : Nat} : state.isReaped index = true ↔
    ∃ child, state.children[index]? = some child ∧ child.reaped = true := by
  simp [isReaped, Option.any_eq_true]

theorem isSignalled_iff {index : Nat} : state.isSignalled index = true ↔
    ∃ child, state.children[index]? = some child ∧ child.signalled = true := by
  simp [isSignalled, Option.any_eq_true]

namespace Accounted

variable {lost untold lost' untold' : Nat → Prop}

/-- A change of a process that takes back neither its signal nor its status. -/
private structure Advances (state : ManagedClient) (child : Nat)
    (change : ServerChild → ServerChild) : Prop where
  /-- Only a process in somebody's hands is reaped. -/
  held : state.Holds child ∨ ∀ found, (change found).reaped = found.reaped
  reaped : ∀ found, found.reaped = true → (change found).reaped = true
  signalled : ∀ found, found.signalled = true → (change found).signalled = true
  dead : ∀ found, state.children[child]? = some found →
    (found.reaped = true → found.alive = false) → (change found).reaped = true →
    (change found).alive = false

private theorem modify {child : Nat} {change : ServerChild → ServerChild}
    (accounted : Accounted lost untold state) (advances : Advances state child change) :
    Accounted lost untold (state.modifyChild child change) where
  -- The change of one process leaves every other one as it was, dead or alive.
  within index holds := by
    show index < (state.children.modify child change).length
    rw [List.length_modify]
    exact accounted.within index holds
  apart := accounted.apart
  waiting index waits := by
    obtain ⟨found, there, told⟩ := isSignalled_iff.mp (accounted.waiting index waits)
    refine isSignalled_iff.mpr ⟨_, modifyChild_getElem?.mpr ⟨found, there, rfl⟩, ?_⟩
    split
    · exact advances.signalled found told
    · exact told
  fate index after there := by
    obtain ⟨found, before, rfl⟩ := modifyChild_getElem?.mp there
    have fate := accounted.fate index found before
    show _ ∧ ¬ state.Holds index ↔ lost index
    split
    · rename_i here
      subst here
      rcases advances.held with holds | same
      · -- A process in somebody's hands is not lost, before and after.
        constructor
        · exact fun free => absurd holds free.2
        · exact fun gone => absurd holds (fate.mpr gone).2
      · rw [same]
        exact fate
    · exact fate
  spawned index gone := by
    show index < (state.children.modify child change).length
    rw [List.length_modify]
    exact accounted.spawned index gone
  told index after there unsignalled unreaped := by
    obtain ⟨found, before, rfl⟩ := modifyChild_getElem?.mp there
    show state.Holds index ∨ untold index
    apply accounted.told index found before
    · cases earlier : found.signalled with
      | false => rfl
      | true =>
        split at unsignalled
        · exact absurd (advances.signalled found earlier) (by rw [unsignalled]; decide)
        · exact absurd earlier (by rw [unsignalled]; decide)
    · cases earlier : found.reaped with
      | false => rfl
      | true =>
        split at unreaped
        · exact absurd (advances.reaped found earlier) (by rw [unreaped]; decide)
        · exact absurd earlier (by rw [unreaped]; decide)
  -- A status is read only of a process that has ended.
  dead index after there reaped := by
    obtain ⟨found, before, rfl⟩ := modifyChild_getElem?.mp there
    split at reaped
    · rename_i here
      subst here
      rw [if_pos rfl]
      exact advances.dead found before (accounted.dead _ found before) reaped
    · rename_i elsewhere
      rw [if_neg elsewhere]
      exact accounted.dead index found before reaped
  gone := accounted.gone

/-- The same processes in fewer hands: what is let go is reaped, or lost. -/
private theorem rehold (accounted : Accounted lost untold state)
    (same : next.children = state.children) (fewer : ∀ index, next.Holds index → state.Holds index)
    (freed : ∀ index, state.Holds index → ¬ next.Holds index →
      state.isReaped index = true ∨ lost' index)
    (more : ∀ index, lost index → lost' index)
    (grown : ∀ index, lost' index → lost index ∨ state.Holds index ∧ ¬ next.Holds index ∧
      state.isReaped index = false ∧ (untold' index ∨ state.isSignalled index = true))
    (kept : ∀ index, untold index → untold' index)
    (apart : ∀ index, next.managed.server = some index → next.call.child ≠ some index)
    (waiting : ∀ index, next.call.waitsFor = some index → state.isSignalled index = true)
    (gone : next.call = .gone → next.managed.server = none) : Accounted lost' untold' next := by
  -- Every process keeps its fate, but for those let go in this move.
  have reads : ∀ {index child}, next.children[index]? = some child →
      state.children[index]? = some child ∧ state.isReaped index = child.reaped ∧
        state.isSignalled index = child.signalled := by
    intro index child there
    rw [same] at there
    exact ⟨there, by simp [isReaped, there], by simp [isSignalled, there]⟩
  refine ⟨?_, apart, ?_, ?_, ?_, ?_, ?_, gone⟩
  · intro index holds
    rw [same]
    exact accounted.within index (fewer index holds)
  · intro index waits
    obtain ⟨child, there, told⟩ := isSignalled_iff.mp (waiting index waits)
    exact isSignalled_iff.mpr ⟨child, same ▸ there, told⟩
  · intro index child there
    obtain ⟨before, reaped, _⟩ := reads there
    have fate := accounted.fate index child before
    constructor
    · rintro ⟨unreaped, free⟩
      by_cases holds : state.Holds index
      · -- It is let go just now.
        rcases freed index holds free with done | gone
        · exact absurd (reaped.symm.trans done) (by rw [unreaped]; decide)
        · exact gone
      · exact more index (fate.mp ⟨unreaped, holds⟩)
    · intro gone
      rcases grown index gone with before | ⟨_, free, unreaped, _⟩
      · obtain ⟨unreaped, free⟩ := fate.mpr before
        exact ⟨unreaped, fun holds => free (fewer index holds)⟩
      · exact ⟨reaped.symm.trans unreaped, free⟩
  · intro index gone
    rw [same]
    rcases grown index gone with before | ⟨holds, _⟩
    · exact accounted.spawned index before
    · exact accounted.within index holds
  · intro index child there unsignalled unreaped
    obtain ⟨before, reaped, signalled⟩ := reads there
    by_cases holds : next.Holds index
    · exact .inl holds
    right
    rcases accounted.told index child before unsignalled unreaped with held | untold
    · rcases freed index held holds with done | gone
      · exact absurd (reaped.symm.trans done) (by rw [unreaped]; decide)
      · -- A process that was told nothing is lost for want of a status.
        rcases grown index gone with before' | ⟨_, _, _, untold | told⟩
        · exact absurd held ((accounted.fate index child before).mpr before').2
        · exact untold
        · exact absurd (signalled.symm.trans told) (by rw [unsignalled]; decide)
    · exact kept index untold
  · intro index child there
    exact accounted.dead index child (reads there).1

/-- The call changes, and nothing else that matters. -/
private theorem quiet (accounted : Accounted lost untold state) (connected : Bool)
    {call : ClientCall} (same : call.child = state.call.child)
    (waiting : ∀ index, call.waitsFor = some index → state.isSignalled index = true)
    (stays : call ≠ .gone) : Accounted lost untold { state with connected, call } := by
  -- The call has the same process in hand, so the same are held.
  have holds : ∀ index, ({ state with connected, call } : ManagedClient).Holds index ↔
      state.Holds index := by
    intro index
    unfold Holds
    dsimp only
    rw [same]
  refine accounted.rehold rfl ?_ ?_ ?_ ?_ ?_ ?_ ?_ ?_
  · exact fun index => (holds index).mp
  · exact fun index held free => absurd ((holds index).mpr held) free
  · exact fun _ => id
  · exact fun _ => .inl
  · exact fun _ => id
  · intro index tracked
    show call.child ≠ some index
    rw [same]
    exact accounted.apart index tracked
  · exact waiting
  · exact fun gone => absurd gone stays

/-- What a call that ends does with the process it has in hand. -/
private structure Settled (lost untold lost' untold' : Nat → Prop) (state : ManagedClient) :
    Prop where
  freed : ∀ index, state.call.child = some index → state.isReaped index = true ∨ lost' index
  more : ∀ index, lost index → lost' index
  grown : ∀ index, lost' index → lost index ∨ state.call.child = some index ∧
    state.isReaped index = false ∧ (untold' index ∨ state.isSignalled index = true)
  kept : ∀ index, untold index → untold' index

/-- A call that has nothing in hand, or a process that is reaped, loses nothing. -/
private theorem Settled.clean
    (freed : ∀ index, state.call.child = some index → state.isReaped index = true) :
    Settled lost untold lost untold state :=
  ⟨fun index found => .inl (freed index found), fun _ => id, fun _ => .inl, fun _ => id⟩

/-- A call lets go of what it has in hand, and only what is tracked stays in hand. -/
private theorem settle (accounted : Accounted lost untold state)
    (settled : Settled lost untold lost' untold' state) (same : next.children = state.children)
    (holds : ∀ index, next.Holds index ↔ state.managed.server = some index)
    (apart : ∀ index, next.managed.server = some index → next.call.child ≠ some index)
    (waits : next.call.waitsFor = none) (gone : next.call = .gone → next.managed.server = none) :
    Accounted lost' untold' next := by
  -- What the call had in hand is reaped or lost by the move, and what is tracked stays held.
  refine accounted.rehold same ?_ ?_ settled.more ?_ settled.kept apart ?_ gone
  · exact fun index held => .inl ((holds index).mp held)
  · rintro index (tracked | found) free
    · exact absurd ((holds index).mpr tracked) free
    · exact settled.freed index found
  · intro index gone
    rcases settled.grown index gone with before | ⟨found, unreaped, why⟩
    · exact .inl before
    · right
      refine ⟨.inr found, ?_, unreaped, why⟩
      rw [holds]
      exact fun tracked => accounted.apart index tracked found
  · intro index impossible
    rw [waits] at impossible
    cases impossible

/-- A call ends, and the client stays. -/
private theorem rest (accounted : Accounted lost untold state)
    (settled : Settled lost untold lost' untold' state) : Accounted lost' untold' state.rest := by
  apply accounted.settle settled (show state.rest.children = state.children from rfl)
  · intro index
    simp [Holds, ManagedClient.rest, ClientCall.child]
  · exact fun index _ impossible => by cases impossible
  · rfl
  · exact fun impossible => by cases impossible

/-- A call ends with its client, and only the handle of what is tracked is still to be dropped. -/
private theorem finish (accounted : Accounted lost untold state)
    (settled : Settled lost untold lost' untold' state) :
    Accounted lost' untold' state.finish := by
  -- The client ends, so nothing but the tracked process is left to be dropped.
  have ends : state.finish.call.child = state.managed.server ∧
      state.finish.call.waitsFor = none := by
    show (state.managed.server.elim ClientCall.gone (.dropping · true)).child = _ ∧
      (state.managed.server.elim ClientCall.gone (.dropping · true)).waitsFor = none
    cases state.managed.server with
    | none => exact ⟨rfl, rfl⟩
    | some child => exact ⟨rfl, rfl⟩
  apply accounted.settle settled (show state.finish.children = state.children from rfl)
  · intro index
    show none = some index ∨ state.finish.call.child = some index ↔ _
    rw [ends.1]
    simp
  · exact fun index impossible => by cases impossible
  · exact ends.2
  · exact fun _ => rfl

/-- A connect succeeds: what it spawned is tracked, and what was tracked before is let go. -/
private theorem succeed {spawned : Option Nat} {place : ConnectPlace}
    (accounted : Accounted lost untold state)
    (connecting : state.call = .connecting spawned place) :
    Accounted lost untold (state.succeed spawned) := by
  have child : state.call.child = spawned := by
    rw [connecting]
    rfl
  have ends : (state.succeed spawned).call.child = state.managed.server ∧
      (state.succeed spawned).call.waitsFor = none ∧ (state.succeed spawned).call ≠ .gone := by
    show (state.managed.server.elim ClientCall.idle (.dropping · false)).child = _ ∧
      (state.managed.server.elim ClientCall.idle (.dropping · false)).waitsFor = none ∧
      state.managed.server.elim ClientCall.idle (.dropping · false) ≠ .gone
    cases state.managed.server with
    | none => exact ⟨rfl, rfl, fun impossible => by cases impossible⟩
    | some child => exact ⟨rfl, rfl, fun impossible => by cases impossible⟩
  -- The two processes change places.
  have holds : ∀ index, (state.succeed spawned).Holds index ↔ state.Holds index := by
    intro index
    show spawned = some index ∨ (state.succeed spawned).call.child = some index ↔
      state.managed.server = some index ∨ state.call.child = some index
    rw [ends.1, child]
    exact or_comm
  refine accounted.rehold rfl ?_ ?_ (fun _ => id) (fun _ => .inl) (fun _ => id) ?_ ?_ ?_
  · exact fun index => (holds index).mp
  · exact fun index held free => absurd ((holds index).mpr held) free
  · intro index new old
    rw [ends.1] at old
    exact accounted.apart index old (child.trans new)
  · intro index impossible
    rw [ends.2.1] at impossible
    cases impossible
  · exact fun gone => absurd gone ends.2.2

/-- A process is spawned, and is in the hands of a call unless it has been reaped. -/
private theorem spawn {spawned : ServerChild} {call : ClientCall}
    (accounted : Accounted lost untold state) (before : state.call.child = none)
    (waits : call.waitsFor = none) (stays : call ≠ .gone)
    (dead : spawned.reaped = true → spawned.alive = false)
    (hands : spawned.reaped = true ∧ call.child = none ∨
      call.child = some state.children.length) :
    Accounted lost untold { state with children := state.children ++ [spawned], call } := by
  -- The new process comes last in the list, and every other one is as it was.
  have kept : ∀ index, state.Holds index → ManagedClient.Holds
      { state with children := state.children ++ [spawned], call } index := by
    rintro index (tracked | found)
    · exact .inl tracked
    · rw [before] at found
      cases found
  -- A process is an earlier one, or the one just spawned.
  have found : ∀ {index : Nat} {child : ServerChild},
      (state.children ++ [spawned])[index]? = some child →
        state.children[index]? = some child ∨ index = state.children.length ∧ child = spawned := by
    intro index child there
    rw [List.getElem?_append] at there
    split at there
    · exact .inl there
    · rename_i beyond
      obtain ⟨first, same⟩ := List.getElem?_eq_some_iff.mp there
      simp only [List.length_singleton, List.getElem_singleton] at first same
      exact .inr ⟨by omega, same.symm⟩
  have older : ∀ {index : Nat}, index < state.children.length →
      (({ state with children := state.children ++ [spawned], call } : ManagedClient).Holds index ↔
        state.Holds index) := by
    intro index small
    refine ⟨?_, kept index⟩
    rintro (tracked | current)
    · exact .inl tracked
    · have current : call.child = some index := current
      rcases hands with ⟨_, nothing⟩ | newest
      · rw [nothing] at current
        cases current
      · rw [newest] at current
        cases current
        omega
  have length : (state.children ++ [spawned]).length = state.children.length + 1 := by simp
  refine ⟨?_, ?_, ?_, ?_, ?_, ?_, ?_, ?_⟩
  · rintro index (tracked | current)
    · have := accounted.within index (.inl tracked)
      show index < (state.children ++ [spawned]).length
      omega
    · show index < (state.children ++ [spawned]).length
      have current : call.child = some index := current
      rcases hands with ⟨_, nothing⟩ | newest
      · rw [nothing] at current
        cases current
      · rw [newest] at current
        cases current
        omega
  -- The process in the call's hand is the new one, which the client does not track yet.
  · intro index tracked current
    have small := accounted.within index (.inl tracked)
    have current : call.child = some index := current
    rcases hands with ⟨_, nothing⟩ | newest
    · rw [nothing] at current
      cases current
    · rw [newest] at current
      cases current
      omega
  · intro index waiting
    have waiting : call.waitsFor = some index := waiting
    rw [waits] at waiting
    cases waiting
  · intro index child there
    rcases found there with earlier | ⟨rfl, rfl⟩
    · rw [older (List.getElem?_eq_some_iff.mp earlier).1]
      exact accounted.fate index child earlier
    · -- The new process is reaped or in hand, and none of its number was lost before.
      constructor
      · rintro ⟨unreaped, free⟩
        rcases hands with ⟨reaped, _⟩ | newest
        · exact absurd reaped (by rw [unreaped]; decide)
        · exact absurd (.inr newest) free
      · intro gone
        have := accounted.spawned _ gone
        omega
  · intro index gone
    have := accounted.spawned index gone
    show index < (state.children ++ [spawned]).length
    omega
  · intro index child there unsignalled unreaped
    rcases found there with earlier | ⟨rfl, rfl⟩
    · rw [older (List.getElem?_eq_some_iff.mp earlier).1]
      exact accounted.told index child earlier unsignalled unreaped
    · rcases hands with ⟨reaped, _⟩ | newest
      · exact absurd reaped (by rw [unreaped]; decide)
      · exact .inl (.inr newest)
  · intro index child there
    rcases found there with earlier | ⟨rfl, rfl⟩
    · exact accounted.dead index child earlier
    · exact dead
  · exact fun gone => absurd gone stays

/-- A process in hand that is running no more is reaped. -/
private theorem reap {child : Nat} (accounted : Accounted lost untold state)
    (held : state.Holds child) (exited : state.isAlive child = false) :
    Accounted lost untold (state.modifyChild child ServerChild.reap) ∧
      (state.modifyChild child ServerChild.reap).isReaped child = true := by
  have there := List.getElem?_eq_getElem (accounted.within child held)
  refine ⟨accounted.modify ⟨.inl held, fun _ _ => rfl, fun _ told => told, ?_⟩, ?_⟩
  · intro found here _ _
    show found.alive = false
    rw [isAlive, here] at exited
    exact exited
  · exact isReaped_iff.mpr ⟨_, modifyChild_getElem?.mpr ⟨_, there, rfl⟩, by rw [if_pos rfl]; rfl⟩

/-- A process in hand is told to terminate. -/
private theorem signal {child : Nat} (accounted : Accounted lost untold state)
    (held : state.Holds child) :
    Accounted lost untold (state.modifyChild child ServerChild.signal) ∧
      (state.modifyChild child ServerChild.signal).isSignalled child = true := by
  have there := List.getElem?_eq_getElem (accounted.within child held)
  refine ⟨accounted.modify ⟨.inl held, fun _ reaped => reaped, fun _ _ => rfl, ?_⟩, ?_⟩
  · exact fun _ _ dead reaped => dead reaped
  · exact isSignalled_iff.mpr
      ⟨_, modifyChild_getElem?.mpr ⟨_, there, rfl⟩, by rw [if_pos rfl]; rfl⟩

/-- A process in hand has exited and is reaped. -/
private theorem kill {child : Nat} (accounted : Accounted lost untold state)
    (held : state.Holds child) :
    Accounted lost untold (state.modifyChild child ServerChild.finish) ∧
      (state.modifyChild child ServerChild.finish).isReaped child = true := by
  have there := List.getElem?_eq_getElem (accounted.within child held)
  refine ⟨accounted.modify ⟨.inl held, fun _ _ => rfl, fun _ told => told, ?_⟩, ?_⟩
  · exact fun _ _ _ _ => rfl
  · exact isReaped_iff.mpr ⟨_, modifyChild_getElem?.mpr ⟨_, there, rfl⟩, by rw [if_pos rfl]; rfl⟩

/-- The handle of a process in hand is dropped, while it is still accounted for as in hand. -/
private theorem release {child : Nat} (answers : DropAnswers)
    (accounted : Accounted lost untold state) (held : state.Holds child) :
    Accounted lost untold (state.modifyChild child (·.release answers)) :=
  accounted.modify ⟨.inl held, fun found reaped => by
      simp [ServerChild.release_reaped, ServerChild.isMissing, ServerChild.isUnwaited, reaped],
    fun found told => found.release_signalled answers (.inl told),
    fun found _ => found.release_alive answers⟩

/-- A failed connect keeps what it spawned in hand, or ends with nothing there. -/
private theorem fail {spawned : Option Nat} {place : ConnectPlace}
    (accounted : Accounted lost untold state)
    (connecting : state.call = .connecting spawned place) :
    Accounted lost untold (state.fail spawned) := by
  -- Without a process of its own a failed connect ends the client at once.
  cases spawned with
  | none =>
    apply accounted.finish (.clean _)
    intro index found
    rw [connecting] at found
    cases found
  | some child =>
    apply accounted.quiet state.connected _ (fun index impossible => by cases impossible)
    · exact fun impossible => by cases impossible
    · rw [connecting]
      rfl

/-- A connect goes on after a check. -/
private theorem checked {spawned : Option Nat} {place : ConnectPlace}
    (accounted : Accounted lost untold state)
    (connecting : state.call = .connecting spawned place)
    (found : state.checked spawned place = some next) : Accounted lost untold next := by
  -- The place in the connect loop changes, and the process in hand does not.
  have onward : ∀ place', Accounted lost untold
      { state with call := .connecting spawned place' } := by
    intro place'
    apply accounted.quiet state.connected _ (fun index impossible => by cases impossible)
    · exact fun impossible => by cases impossible
    · rw [connecting]
      rfl
  unfold ManagedClient.checked at found
  split at found
  · cases found
    exact onward _
  · cases found
    exact onward _
  · cases found
    split
    · exact onward _
    · exact accounted.fail connecting
  · cases found

/-- A connect looks at what it spawned. -/
private theorem check {spawned : Option Nat} {place : ConnectPlace} {readable : Bool}
    (accounted : Accounted lost untold state)
    (connecting : state.call = .connecting spawned place)
    (found : state.check spawned place readable = some next) : Accounted lost untold next := by
  -- The status is read, or it is not and the process is stopped.
  unfold ManagedClient.check at found
  split at found
  · exact accounted.checked connecting found
  · rename_i child
    obtain ⟨middle, further, rfl⟩ := Option.map_eq_some_iff.mp found
    split
    · exact accounted.fail connecting
    split
    · exact accounted.checked connecting further
    · -- An exit that is seen here is the end of the connect.
      rename_i exited
      have held : state.Holds child := .inr (by rw [connecting]; rfl)
      exact (accounted.reap held (eq_false_of_ne_true exited)).1.fail connecting

/-- What is lost and what is untold after a move. -/
private abbrev AccountedAfter (lost untold : Nat → Prop) (state : ManagedClient)
    (move : ClientMove) (next : ManagedClient) : Prop :=
  Accounted (fun index => lost index ∨ state.Loses move index)
    (fun index => untold index ∨ state.Untold move index) next

/-- A move that loses nothing. -/
private theorem harmless {move : ClientMove} (accounted : Accounted lost untold next)
    (harm : ∀ index, ¬ state.Loses move index) : AccountedAfter lost untold state move next := by
  have sameLost : (fun index => lost index ∨ state.Loses move index) = lost :=
    funext fun index => propext ⟨fun gone => gone.resolve_right (harm index), .inl⟩
  have sameUntold : (fun index => untold index ∨ state.Untold move index) = untold :=
    funext fun index => propext
      ⟨fun gone => gone.resolve_right fun event => harm index (.inl event), .inl⟩
  show Accounted (fun index => lost index ∨ state.Loses move index) _ next
  rw [sameLost, sameUntold]
  exact accounted

/-- Stopping what a failed connect has spawned. -/
private theorem stop_failing {child : Nat} (readable : Bool)
    (accounted : Accounted lost untold state) (failing : state.call = .failing child) :
    AccountedAfter lost untold state (.stop readable)
      (state.stopChild child readable (.abandoning child) ManagedClient.finish) := by
  have inHand : state.call.child = some child := by
    rw [failing]
    rfl
  have now : state.stopsNow = some child := by
    rw [stopsNow, failing]
  -- With a status that can be read, or was, nothing is lost.
  have spared : ∀ index, readable = true ∨ state.isReaped child = true →
      ¬ state.Loses (.stop readable) index := by
    intro index why loses
    obtain ⟨same, at_, unreaped⟩ := loses.of_stop
    rw [now] at at_
    cases at_
    cases same
    rcases why with impossible | reaped
    · cases impossible
    · exact absurd reaped (by rw [unreaped]; decide)
  unfold ManagedClient.stopChild
  -- Its status is at hand or unreadable; else it is told to terminate, or is reaped if it has
  -- exited.
  split
  · rename_i way
    cases reaped : state.isReaped child with
    | true =>
      -- A status that was read before is still at hand.
      apply harmless _ fun index => spared index (.inr reaped)
      apply accounted.finish (.clean _)
      intro index found
      cases inHand.symm.trans found
      exact reaped
    | false =>
      rw [reaped, Bool.false_or, Bool.not_eq_true'] at way
      subst way
      -- The status cannot be read, and the process is let go of as it is.
      have event : state.Unread (.stop false) child := ⟨rfl, now, reaped⟩
      apply accounted.finish
      refine ⟨?_, fun _ => .inl, ?_, fun _ => .inl⟩
      · intro index found
        cases inHand.symm.trans found
        exact .inr (.inr (.inl (.inl event)))
      · rintro index (before | loses)
        · exact .inl before
        · cases now.symm.trans loses.of_stop.2.1
          exact .inr ⟨inHand, reaped, .inl (.inr (.inl event))⟩
  · rename_i way
    have read : readable = true := by
      cases readable with
      | true => rfl
      | false => exact absurd (Bool.or_true _) way
    apply harmless _ fun index => spared index (.inl read)
    split
    · obtain ⟨told, signalled⟩ := accounted.signal (.inr inHand)
      apply told.quiet _ _ _ fun impossible => by cases impossible
      · show some child = _
        exact inHand.symm
      · rintro index waits
        cases waits
        exact signalled
    · rename_i exited
      obtain ⟨reaped, done⟩ := accounted.reap (.inr inHand) (eq_false_of_ne_true exited)
      apply reaped.finish (.clean _)
      intro index found
      cases inHand.symm.trans found
      exact done

/-- Stopping what is tracked. -/
private theorem stop_halting {child : Nat} (readable : Bool)
    (accounted : Accounted lost untold state) (halting : state.call = .halting)
    (tracked : state.managed.server = some child) :
    AccountedAfter lost untold state (.stop readable)
      (({ state with managed := { state.managed with server := none } } : ManagedClient).stopChild
        child readable (.stopping child) ManagedClient.rest) := by
  -- A process that was reaped needs no signal; otherwise it is told to terminate and waited for.
  have now : state.stopsNow = some child := by
    rw [stopsNow, halting]
    exact tracked
  -- The tracked process is the only one in anybody's hands.
  have only : ∀ index, state.Holds index ↔ child = index := by
    intro index
    simp [Holds, tracked, halting, ClientCall.child]
  have free : ∀ (children : List ServerChild) (index : Nat), ¬ ManagedClient.Holds
      { state with managed := { state.managed with server := none }, children, call := .idle }
      index := by
    rintro children index (impossible | impossible)
    · cases impossible
    · cases impossible
  have spared : ∀ index, readable = true ∨ state.isReaped child = true →
      ¬ state.Loses (.stop readable) index := by
    intro index why loses
    obtain ⟨same, at_, unreaped⟩ := loses.of_stop
    rw [now] at at_
    cases at_
    cases same
    rcases why with impossible | reaped
    · cases impossible
    · exact absurd reaped (by rw [unreaped]; decide)
  unfold ManagedClient.stopChild
  split
  · rename_i way
    have way : (state.isReaped child || !readable) = true := way
    refine accounted.rehold rfl ?_ ?_ ?_ ?_ ?_ ?_ ?_ ?_
    · exact fun index holds => absurd holds (free _ index)
    · intro index held _
      cases (only index).mp held
      cases reaped : state.isReaped child with
      | true => exact .inl rfl
      | false =>
        rw [reaped, Bool.false_or, Bool.not_eq_true'] at way
        exact .inr (.inr (.inl (.inl ⟨by rw [way], now, reaped⟩)))
    · exact fun _ => .inl
    · rintro index (before | loses)
      · exact .inl before
      · have unread := loses.of_stop
        cases now.symm.trans unread.2.1
        exact .inr ⟨(only child).mpr rfl, free _ child, unread.2.2, .inl (.inr (.inl unread))⟩
    · exact fun _ => .inl
    · exact fun index impossible => by cases impossible
    · exact fun index impossible => by cases impossible
    · exact fun impossible => by cases impossible
  · rename_i way
    have way : ¬ (state.isReaped child || !readable) = true := way
    have read : readable = true := by
      cases readable with
      | true => rfl
      | false => exact absurd (Bool.or_true _) way
    apply harmless _ fun index => spared index (.inl read)
    have held := (only child).mpr rfl
    split
    · -- The process goes from the client to the call that waits for it.
      obtain ⟨told, signalled⟩ := accounted.signal held
      refine told.rehold rfl ?_ ?_ ?_ ?_ ?_ ?_ ?_ ?_
      · rintro index (impossible | waits)
        · cases impossible
        · cases waits
          exact held
      · rintro index before after
        have before : state.Holds index := before
        cases (only index).mp before
        exact absurd (.inr rfl) after
      · exact fun _ => id
      · exact fun _ => .inl
      · exact fun _ => id
      · exact fun index impossible => by cases impossible
      · intro index waits
        cases waits
        exact signalled
      · exact fun impossible => by cases impossible
    · rename_i exited
      obtain ⟨reaped, done⟩ := accounted.reap held (eq_false_of_ne_true exited)
      refine reaped.rehold rfl ?_ ?_ ?_ ?_ ?_ ?_ ?_ ?_
      · exact fun index holds => absurd holds (free _ index)
      · intro index before _
        have before : state.Holds index := before
        cases (only index).mp before
        exact .inl done
      · exact fun _ => id
      · exact fun _ => .inl
      · exact fun _ => id
      · exact fun index impossible => by cases impossible
      · exact fun index impossible => by cases impossible
      · exact fun impossible => by cases impossible

/-- The process that is awaited is in the hands of the call. -/
private theorem awaited_waits {child : Nat} {done : ManagedClient → ManagedClient}
    (found : state.awaited = some (child, done)) :
    state.call.waitsFor = some child ∧ state.call.child = some child := by
  -- Both calls that wait have the process in hand.
  unfold ManagedClient.awaited at found
  split at found
  · rename_i call
    cases found
    rw [call]
    exact ⟨rfl, rfl⟩
  · rename_i call
    cases found
    rw [call]
    exact ⟨rfl, rfl⟩
  · cases found

/-- What follows the wait for a process, once it is reaped or lost. -/
private theorem awaited_done {child : Nat} {done : ManagedClient → ManagedClient}
    {other : ManagedClient} (found : state.awaited = some (child, done))
    (accounted : Accounted lost untold other)
    (settled : Settled lost untold lost' untold' other) : Accounted lost' untold' (done other) := by
  unfold ManagedClient.awaited at found
  split at found
  · cases found
    exact accounted.finish settled
  · cases found
    exact accounted.rest settled
  · cases found

/-- A wait that is cut short loses the process unless it has been reaped. -/
private theorem settled_cutShort {child : Nat} {move : ClientMove}
    (accounted : Accounted lost untold state)
    (cut : move = .timedOut .failed ∨ move = .timedOut .unwaited ∨ move = .cancel)
    (waits : state.call.waitsFor = some child) (inHand : state.call.child = some child) :
    Settled lost untold (fun index => lost index ∨ state.Loses move index)
      (fun index => untold index ∨ state.Untold move index) state := by
  -- Nobody reads the status of a process whose wait was cut short.
  refine ⟨?_, fun _ => .inl, ?_, fun _ => .inl⟩
  · intro index found
    cases inHand.symm.trans found
    cases reaped : state.isReaped child with
    | true => exact .inl rfl
    | false => exact .inr (.inr (.inr (.inl ⟨cut, waits, reaped⟩)))
  · rintro index (before | (⟨same, _⟩ | ⟨_, same, _⟩) | ⟨_, found, unreaped⟩ | ⟨_, same, _⟩)
    · exact .inl before
    · rcases cut with rfl | rfl | rfl <;> cases same
    · rcases cut with rfl | rfl | rfl <;> cases same
    · cases waits.symm.trans found
      exact .inr ⟨inHand, unreaped, .inr (accounted.waiting child waits)⟩
    · rcases cut with rfl | rfl | rfl <;> cases same

/-- Most moves lose nothing. -/
private theorem ordinary {move : ClientMove} (accounted : Accounted lost untold next)
    (read : move ≠ .stop false) (uncut : ∀ outcome, outcome ≠ .waited → move ≠ .timedOut outcome)
    (uncancelled : move ≠ .cancel) (held : ∀ answers, move ≠ .released answers) :
    AccountedAfter lost untold state move next := by
  apply accounted.harmless
  intro index loses
  rcases loses.move with same | ⟨outcome, same, failed⟩ | same | ⟨answers, same⟩
  · exact read same
  · exact uncut outcome failed same
  · exact uncancelled same
  · exact held answers same

/-- A connect begins. -/
private theorem connect (outcome : SpawnOutcome) (accounted : Accounted lost untold state)
    (idle : state.call = .idle) : Accounted lost untold (state.connect outcome) := by
  have nothing : state.call.child = none := by
    rw [idle]
    rfl
  have clean : ∀ other : ManagedClient, other.call = .idle → ∀ index,
      other.call.child = some index → other.isReaped index = true := by
    intro other same index found
    rw [same] at found
    cases found
  unfold ManagedClient.connect
  split
  · exact accounted
  split
  · exact accounted.quiet state.connected nothing.symm (fun index impossible => by cases impossible)
      fun impossible => by cases impossible
  · rename_i config _
    cases outcome with
    | failed => exact accounted.finish (.clean (clean state idle))
    | died read =>
      cases read with
      | false =>
        -- The handle of a process that is not found is dropped.
        exact accounted.spawn nothing rfl (fun impossible => by cases impossible)
          (fun impossible => by cases impossible) (.inr rfl)
      | true =>
      -- A process that is gone at once is reaped, and in nobody's hands.
      have spawned : Accounted lost untold { state with
          children := state.children ++ [{ config, alive := false, reaped := true }]
          call := .idle } :=
        accounted.spawn nothing rfl (fun impossible => by cases impossible) (fun _ => rfl)
          (.inl ⟨rfl, rfl⟩)
      rw [← idle] at spawned
      exact spawned.finish (.clean (clean _ idle))
    | running =>
      exact accounted.spawn nothing rfl (fun impossible => by cases impossible)
        (fun impossible => by cases impossible) (.inr rfl)

/-- Dropping the call in progress. -/
private theorem cancel (accounted : Accounted lost untold state)
    (found : state.cancel = some next) : AccountedAfter lost untold state .cancel next := by
  -- A call that waits for no process may be dropped without a loss, and one that waits loses it.
  have spared : state.call.waitsFor = none → ∀ index, ¬ state.Loses .cancel index := by
    rintro nothing index ((⟨same, _⟩ | ⟨_, same, _⟩) | ⟨_, waits, _⟩ | ⟨_, same, _⟩)
    · cases same
    · cases same
    · rw [nothing] at waits
      cases waits
    · cases same
  -- A connection that is cut short releases what it spawned, which takes another move.
  have dropped : ∀ spawned place, state.call = .connecting spawned place →
      AccountedAfter lost untold state .cancel
        (spawned.elim state.finish fun child => { state with call := .dropping child true }) := by
    intro spawned place connecting
    apply harmless _ (spared (by rw [connecting]; rfl))
    cases spawned with
    | none =>
      apply accounted.finish (.clean _)
      intro index found
      rw [connecting] at found
      cases found
    | some child =>
      apply accounted.quiet state.connected _ (fun index impossible => by cases impossible)
      · exact fun impossible => by cases impossible
      · rw [connecting]
        rfl
  unfold ManagedClient.cancel at found
  split at found
  · rename_i spawned loop connecting
    cases found
    exact dropped spawned _ connecting
  · rename_i spawned loop connecting
    cases found
    exact dropped spawned _ connecting
  · rename_i child call
    cases found
    have inHand : state.call.waitsFor = some child ∧ state.call.child = some child := by
      rw [call]
      exact ⟨rfl, rfl⟩
    exact accounted.finish (accounted.settled_cutShort (.inr (.inr rfl)) inHand.1 inHand.2)
  · rename_i child call
    cases found
    have inHand : state.call.waitsFor = some child ∧ state.call.child = some child := by
      rw [call]
      exact ⟨rfl, rfl⟩
    exact accounted.rest (accounted.settled_cutShort (.inr (.inr rfl)) inHand.1 inHand.2)
  · rename_i call
    cases found
    apply harmless _ (spared (by rw [call]; rfl))
    apply accounted.rest (.clean _)
    intro index found
    rw [call] at found
    cases found
  · cases found

/-- Dropping the handle of a process loses it just if its status is not read in the end. -/
private theorem settled_released {child : Nat} {client : Bool} {answers : DropAnswers}
    (accounted : Accounted lost untold state) (dropping : state.call = .dropping child client) :
    Settled lost untold (fun index => lost index ∨ state.Loses (.released answers) index)
      (fun index => untold index ∨ state.Untold (.released answers) index)
      (state.modifyChild child (·.release answers)) := by
  -- Its status is read at once or in the end, or the process is lost here.
  have inHand : state.call.child = some child ∧ state.call.drops = some child := by
    rw [dropping]
    exact ⟨rfl, rfl⟩
  obtain ⟨found, there⟩ : ∃ found, state.children[child]? = some found :=
    ⟨_, List.getElem?_eq_getElem (accounted.within child (.inr inHand.1))⟩
  have after : (state.modifyChild child (·.release answers)).children[child]? =
      some (found.release answers) :=
    modifyChild_getElem?.mpr ⟨found, there, by rw [if_pos rfl]⟩
  -- It is lost if neither its status nor itself is found, or if the wait after the signal fails.
  have loses : state.Loses (.released answers) child ↔
      (found.isMissing answers || found.isUnwaited answers) = true := by
    rw [Bool.or_eq_true]
    constructor
    · rintro ((⟨same, _⟩ | ⟨_, same, _, missing⟩) | ⟨same | same | same, _⟩ | ⟨_, same, _, vain⟩)
      · cases same
      · cases same
        rw [there] at missing
        exact .inl missing
      · cases same
      · cases same
      · cases same
      · cases same
        rw [there] at vain
        exact .inr vain
    · rintro (missing | vain)
      · exact .inl (.inr ⟨answers, rfl, inHand.2, by rw [there]; exact missing⟩)
      · exact .inr (.inr ⟨answers, rfl, inHand.2, by rw [there]; exact vain⟩)
  -- No other process is lost in this move.
  have only : ∀ index, state.Loses (.released answers) index → index = child := by
    rintro index ((⟨same, _⟩ | ⟨_, _, at_, _⟩) | ⟨same | same | same, _⟩ | ⟨_, _, at_, _⟩)
    · cases same
    · exact (Option.some.inj (inHand.2.symm.trans at_)).symm
    · cases same
    · cases same
    · cases same
    · exact (Option.some.inj (inHand.2.symm.trans at_)).symm
  refine ⟨?_, fun _ => .inl, ?_, fun _ => .inl⟩
  · intro index at_
    cases inHand.1.symm.trans at_
    by_cases lost : state.Loses (.released answers) child
    · exact .inr (.inr lost)
    · left
      rw [isReaped, after]
      show (found.release answers).reaped = true
      have seen := eq_false_of_ne_true fun way => lost (loses.mpr way)
      rw [found.release_reaped, seen]
      rfl
  · rintro index (before | lost)
    · exact .inl before
    · cases only index lost
      have way := loses.mp lost
      refine .inr ⟨inHand.1, ?_, ?_⟩
      · rw [isReaped, after]
        show (found.release answers).reaped = false
        rw [found.release_reaped, way]
        rfl
      · rcases lost with untold | ⟨same | same | same, _⟩ | ⟨_, same, _, vain⟩
        · exact .inl (.inr untold)
        · cases same
        · cases same
        · cases same
        · cases same
          rw [there] at vain
          right
          rw [isSignalled, after]
          exact found.release_signalled answers (.inr vain)

/-- Choices leave the process that is tracked alone. -/
private theorem apply_server (pid : UInt32) (exe : Option String) (managed : ManagedServer)
    (setting : ServerSetting) : (managed.apply pid exe setting).server = managed.server := by
  -- No choice touches the process that is tracked.
  cases setting with
  | socketPath path => rfl
  | autoSpawn =>
    obtain ⟨config, same, _⟩ := ManagedServer.ensureAutoSpawnConfig_eq pid exe
      { managed with autoSpawn := true }
    have kept := congrArg ManagedServer.server same
    exact kept
  | logFilter filter =>
    obtain ⟨config, same, _⟩ := ManagedServer.configure_eq pid exe
      { managed with pendingLogFilter := some filter } (·.setLogFilter filter)
    have kept := congrArg ManagedServer.server same
    exact kept
  | eventTapEnabled enabled =>
    obtain ⟨config, same, _⟩ := ManagedServer.configure_eq pid exe
      { managed with pendingEventTapEnabled := some enabled } (·.setEventTapEnabled enabled)
    have kept := congrArg ManagedServer.server same
    exact kept
  | connectOnly => rfl

/-- Every move accounts for the spawned processes. -/
private theorem step {pid : UInt32} {move : ClientMove} (accounted : Accounted lost untold state)
    (stepped : state.step pid move = some next) : AccountedAfter lost untold state move next := by
  -- One case for each move, with the lemma about what it does to the hands.
  have idly : ∀ connected {call : ClientCall}, state.call.child = none → call.child = none →
      call.waitsFor = none → call ≠ .gone →
      Accounted lost untold { state with connected, call } := by
    intro connected call before after waits stays
    apply accounted.quiet connected (after.trans before.symm) _ stays
    intro index waiting
    rw [waits] at waiting
    cases waiting
  have onward : ∀ {spawned place} (place' : ConnectPlace),
      state.call = .connecting spawned place →
      Accounted lost untold { state with call := .connecting spawned place' } := by
    intro spawned place place' connecting
    apply accounted.quiet state.connected _ (fun index impossible => by cases impossible)
    · exact fun impossible => by cases impossible
    · rw [connecting]
      rfl
  -- Moves that only change the call's place keep every process in the same hands.
  cases move with
  | set exe setting =>
    obtain ⟨_, same⟩ := Option.ite_none_right_eq_some.mp stepped
    cases same
    apply ordinary _ (by simp) (by simp) (by simp) (by simp)
    -- A setting leaves the tracked process alone.
    have holds : ∀ index, ManagedClient.Holds
        { state with managed := state.managed.apply pid exe setting } index ↔
          state.Holds index := by
      intro index
      unfold Holds
      rw [apply_server]
    refine accounted.rehold rfl ?_ ?_ (fun _ => id) (fun _ => .inl) (fun _ => id) ?_
      accounted.waiting ?_
    · exact fun index => (holds index).mp
    · exact fun index held free => absurd ((holds index).mpr held) free
    · intro index tracked
      rw [apply_server] at tracked
      exact accounted.apart index tracked
    · intro gone
      rw [apply_server]
      exact accounted.gone gone
  | connect outcome =>
    obtain ⟨idle, same⟩ := Option.ite_none_right_eq_some.mp stepped
    cases same
    exact ordinary (accounted.connect outcome idle) (by simp) (by simp) (by simp) (by simp)
  | poll elapsed =>
    unfold ManagedClient.step at stepped
    dsimp only at stepped
    split at stepped
    · rename_i connecting
      cases stepped
      exact ordinary (onward _ connecting) (by simp) (by simp) (by simp) (by simp)
    · cases stepped
  | check readable =>
    unfold ManagedClient.step at stepped
    dsimp only at stepped
    split at stepped
    · rename_i connecting
      exact ordinary (accounted.check connecting stepped) (by simp) (by simp) (by simp) (by simp)
    · cases stepped
  | attempt connects =>
    unfold ManagedClient.step at stepped
    dsimp only at stepped
    split at stepped
    · rename_i connecting
      cases stepped
      apply ordinary _ (by simp) (by simp) (by simp) (by simp)
      split
      · exact accounted.succeed connecting
      · exact onward _ connecting
    · cases stepped
  | wake =>
    unfold ManagedClient.step at stepped
    dsimp only at stepped
    split at stepped
    · rename_i connecting
      cases stepped
      exact ordinary (onward _ connecting) (by simp) (by simp) (by simp) (by simp)
    · rename_i connecting
      cases stepped
      exact ordinary (onward _ connecting) (by simp) (by simp) (by simp) (by simp)
    · cases stepped
  | disconnect =>
    obtain ⟨idle, same⟩ := Option.ite_none_right_eq_some.mp stepped
    cases same
    apply ordinary _ (by simp) (by simp) (by simp) (by simp)
    rw [idle]
    exact idly false (by rw [idle]; rfl) rfl rfl (fun impossible => by cases impossible)
  | shutdown =>
    obtain ⟨idle, same⟩ := Option.ite_none_right_eq_some.mp stepped
    cases same
    apply ordinary _ (by simp) (by simp) (by simp) (by simp)
    apply idly state.connected (by rw [idle]; rfl)
    · split <;> rfl
    · split <;> rfl
    · split <;> exact fun impossible => by cases impossible
  | answered ok =>
    obtain ⟨requesting, same⟩ := Option.ite_none_right_eq_some.mp stepped
    cases same
    apply ordinary _ (by simp) (by simp) (by simp) (by simp)
    apply idly state.connected (by rw [requesting]; rfl)
    · split <;> rfl
    · split <;> rfl
    · split <;> exact fun impossible => by cases impossible
  | stop readable =>
    have stepped : state.stop readable = some next := stepped
    unfold ManagedClient.stop at stepped
    split at stepped
    · rename_i failing
      cases stepped
      exact accounted.stop_failing readable failing
    · rename_i halting
      split at stepped
      · rename_i untracked
        cases stepped
        -- Without a process there is nothing to stop, and nothing to lose.
        have nothing : state.stopsNow = none := by
          rw [stopsNow, halting]
          exact untracked
        apply harmless
        · apply accounted.rest (.clean _)
          intro index found
          rw [halting] at found
          cases found
        · intro index loses
          have found := loses.of_stop.2.1
          rw [nothing] at found
          cases found
      · rename_i tracked
        cases stepped
        exact accounted.stop_halting readable halting tracked
    · cases stepped
  | noticed =>
    obtain ⟨⟨child, done⟩, found, further⟩ := Option.bind_eq_some_iff.mp stepped
    obtain ⟨waits, inHand⟩ := awaited_waits found
    dsimp only at further
    split at further
    · cases further
    · rename_i exited
      cases further
      obtain ⟨reaped, seen⟩ := accounted.reap (.inr inHand) (eq_false_of_ne_true exited)
      apply ordinary _ (by simp) (by simp) (by simp) (by simp)
      apply awaited_done found reaped (.clean _)
      intro index at_
      cases inHand.symm.trans at_
      exact seen
  | timedOut outcome =>
    obtain ⟨⟨child, done⟩, found, rfl⟩ := Option.map_eq_some_iff.mp stepped
    obtain ⟨waits, inHand⟩ := awaited_waits found
    have cut := fun failed => @settled_cutShort _ _ _ child (.timedOut outcome) accounted failed
      waits inHand
    cases outcome with
    | waited =>
      obtain ⟨dead, seen⟩ := accounted.kill (.inr inHand)
      have ended : ∀ outcome, outcome ≠ .waited →
          ClientMove.timedOut .waited ≠ .timedOut outcome :=
        fun outcome failed same => failed (ClientMove.timedOut.inj same).symm
      refine ordinary ?_ (by simp) ended (by simp) (by simp)
      apply awaited_done found dead (.clean _)
      intro index at_
      cases inHand.symm.trans at_
      exact seen
    -- A kill or a wait that fails loses the process.
    | failed => exact awaited_done found accounted (cut (.inl rfl))
    | unwaited => exact awaited_done found accounted (cut (.inr (.inl rfl)))
  | released answers =>
    unfold ManagedClient.step at stepped
    dsimp only at stepped
    split at stepped
    · rename_i child client dropping
      cases stepped
      have released := accounted.release answers (.inr (by rw [dropping]; rfl) : state.Holds child)
      have settled := @settled_released _ _ _ child client answers accounted dropping
      split
      · exact released.finish settled
      · exact released.rest settled
    · cases stepped
  | cancel => exact accounted.cancel stepped
  | drop =>
    obtain ⟨idle, same⟩ := Option.ite_none_right_eq_some.mp stepped
    cases same
    apply ordinary _ (by simp) (by simp) (by simp) (by simp)
    apply accounted.finish (.clean _)
    intro index found
    rw [idle] at found
    cases found
  | exits child =>
    obtain ⟨_, same⟩ := Option.ite_none_right_eq_some.mp stepped
    cases same
    apply ordinary _ (by simp) (by simp) (by simp) (by simp)
    exact accounted.modify ⟨.inr fun _ => rfl, fun _ reaped => reaped, fun _ told => told,
      fun _ _ _ _ => rfl⟩

end Accounted

/-- Whether the processes are accounted for by what happened along the moves of a new client. -/
private def AccountsFor (pid : UInt32) (path : String) (past : List ClientMove)
    (reached : ManagedClient) : Prop :=
  Accounted
    (fun index => Run.Occurs (Steps pid) { managed := { socketPath := path } } past
      fun middle move => middle.Loses move index)
    (fun index => Run.Occurs (Steps pid) { managed := { socketPath := path } } past
      fun middle move => middle.Untold move index) reached

/-- A move leads to one state. -/
theorem Steps.functional {pid : UInt32} {move : ClientMove} {first second : ManagedClient}
    (left : Steps pid state move first) (right : Steps pid state move second) : first = second :=
  Option.some.inj (left.symm.trans right)

end ManagedClient

/--
No server process is left behind, unless stopping it or dropping its handle fails.

In every run of a client, with its calls, its settings, failures, and the exits of processes in any
order, a process it spawned that is neither tracked nor in the hands of the call in progress has
exited and been waited for, and it has not been just if a move let it go: its status could not be
read when it was to be stopped, it could not be killed, waiting for it failed, the call that waited
for it was dropped, or its handle was dropped and its status was not read in the end. Save in the
first of these cases, and where it was not found when its handle was dropped, it was told to
terminate. A client that is dropped has nothing in its hands any more.
-/
theorem server_processes_accounted {pid : UInt32} {path : String} {moves : List ClientMove}
    {state : ManagedClient}
    (run : Run (ManagedClient.Steps pid) { managed := { socketPath := path } } moves state)
    {index : Nat} {child : ServerChild} (spawned : state.children[index]? = some child) :
    (child.reaped = false ∧ ¬ state.Holds index ↔
      Run.Occurs (ManagedClient.Steps pid) { managed := { socketPath := path } } moves
        fun middle move => middle.Loses move index) ∧
    (child.reaped = true → child.alive = false) ∧
    (child.signalled = false → child.reaped = false → state.Holds index ∨
      Run.Occurs (ManagedClient.Steps pid) { managed := { socketPath := path } } moves
        fun middle move => middle.Untold move index) ∧
    (state.call = .gone → ¬ state.Holds index) := by
  -- The run carries the account, with what was lost so far read off its moves.
  have accounted : ManagedClient.AccountsFor pid path moves state := by
    refine (run.trace_invariant (fun past reached =>
      Run (ManagedClient.Steps pid) { managed := { socketPath := path } } past reached ∧
        ManagedClient.AccountsFor pid path past reached) ?_ [] ⟨.nil _, ?_⟩).2
    · rintro past reached move next stepped ⟨prior, held⟩
      refine ⟨prior.append (.cons stepped (.nil _)), ?_⟩
      have further := ManagedClient.Accounted.step held stepped
      have snoc := fun event => @Run.occurs_snoc _ _ (ManagedClient.Steps pid)
        { managed := { socketPath := path } } reached ManagedClient.Steps.functional past move
        prior event
      unfold ManagedClient.AccountsFor
      simp only [snoc]
      exact further
    · -- A new client has spawned nothing.
      have nothing : ∀ event, ¬ Run.Occurs (ManagedClient.Steps pid)
          { managed := { socketPath := path } } [] event := fun _ => Run.not_occurs_nil
      refine ⟨?_, ?_, ?_, ?_, ?_, ?_, ?_, fun _ => rfl⟩
      · rintro index (impossible | impossible)
        · cases impossible
        · cases impossible
      · exact fun index impossible => by cases impossible
      · exact fun index impossible => by cases impossible
      · exact fun index child there => by cases there
      · exact fun index gone => absurd gone (nothing _)
      · exact fun index child there => by cases there
      · exact fun index child there => by cases there
  refine ⟨accounted.fate index child spawned, accounted.dead index child spawned,
    accounted.told index child spawned, ?_⟩
  rintro gone (tracked | inHand)
  · exact absurd (tracked.symm.trans (accounted.gone gone)) (by simp)
  · rw [gone] at inHand
    cases inHand

/-- A client connects twice, each time to a server it spawns, and its second shutdown is dropped;
waiting for the first server fails when its handle is dropped. -/
private def replacing : List ClientMove :=
  [.set (some "/hotki") .autoSpawn, .connect .running, .poll false, .check true, .attempt true,
    .disconnect, .connect .running, .poll false, .check true, .attempt true,
    .released { waited := false }, .shutdown, .answered true, .stop true, .cancel]

/-- A server of that client that was told to terminate. -/
private def signalled : ServerChild where
  config := ⟨"/hotki", ["--server", "--socket", "/a.sock", "--parent-pid", "7"]⟩
  signalled := true

/-- The conclusion at a process whose handle is dropped, and at one whose stop is. -/
theorem server_processes_accounted_cut :
    ∃ state : ManagedClient,
      Run (ManagedClient.Steps 7) { managed := { socketPath := "/a.sock" } } replacing state ∧
      (∀ index < 2, ∃ child, state.children[index]? = some child ∧ child.reaped = false ∧
        child.signalled = true ∧
        Run.Occurs (ManagedClient.Steps 7) { managed := { socketPath := "/a.sock" } } replacing
          fun middle move => middle.Loses move index) := by
  -- The two processes of the run are lost in different ways.
  obtain ⟨state, shown, run⟩ := Run.of_foldlM (fun state move => ManagedClient.step 7 state move)
    ({ managed := { socketPath := "/a.sock" } } : ManagedClient) replacing
    (fun state => (state.children, state.managed.server, state.call))
    (List.replicate 2 signalled, none, .idle) (by decide +kernel)
  obtain ⟨children, rest⟩ := Prod.mk.inj shown
  obtain ⟨server, call⟩ := Prod.mk.inj rest
  refine ⟨state, run, fun index two => ?_⟩
  have spawned := congrArg (fun found : List ServerChild => found[index]?) children
  simp only [List.getElem?_replicate, two, if_true] at spawned
  have free : ¬ state.Holds index := by
    rintro (tracked | inHand)
    · rw [server] at tracked
      cases tracked
    · rw [call] at inHand
      cases inHand
  exact ⟨_, spawned, rfl, rfl, (server_processes_accounted run spawned).1.mp ⟨rfl, free⟩⟩

end Hotki
