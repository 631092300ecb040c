import Hotki.Engine.Gesture

/-! The action repeat loops under the operations of tasks: what a loop keeps, and that every live
loop is registered. -/

namespace Hotki

open Base

/-- A loop at a later time: of the same gesture, and no less cancelled or ended. -/
structure LoopKept (before after : TickerTask ActionLoop) : Prop where
  same : after.id = before.id
  starter : after.callback.starter = before.callback.starter
  cancelled : before.cancelled → after.cancelled
  ended : before.ended → after.ended

/-- A loop that nothing happens to is kept. -/
theorem LoopKept.refl (loop : TickerTask ActionLoop) : LoopKept loop loop :=
  ⟨rfl, rfl, id, id⟩

/-- What keeps a loop twice keeps it. -/
theorem LoopKept.trans {first second third : TickerTask ActionLoop}
    (left : LoopKept first second) (right : LoopKept second third) : LoopKept first third where
  same := right.same.trans left.same
  starter := right.starter.trans left.starter
  cancelled before := right.cancelled (left.cancelled before)
  ended before := right.ended (left.ended before)

namespace Ticker

/-- The same loops at a later time, with those added that satisfy a condition. -/
structure Evolves (added : TickerTask ActionLoop → Prop) (before after : Ticker ActionLoop) :
    Prop where
  kept : ∀ (index : Nat) (loop : TickerTask ActionLoop), before.tasks[index]? = some loop →
    ∃ later, after.tasks[index]? = some later ∧ LoopKept loop later
  origin : ∀ (index : Nat) (later : TickerTask ActionLoop), after.tasks[index]? = some later →
    (∃ loop, before.tasks[index]? = some loop ∧ LoopKept loop later) ∨ added later

variable {added : TickerTask ActionLoop → Prop}

/-- Nothing changes when nothing happens. -/
theorem Evolves.refl (loops : Ticker ActionLoop) : loops.Evolves added loops where
  kept _ loop found := ⟨loop, found, .refl loop⟩
  origin _ loop found := .inl ⟨loop, found, .refl loop⟩

/-- One change after the other, where what is added stays recognizable. -/
theorem Evolves.trans {first second third : Ticker ActionLoop}
    (lasting : ∀ {loop later}, LoopKept loop later → added loop → added later)
    (left : first.Evolves added second) (right : second.Evolves added third) :
    first.Evolves added third where
  -- A loop of the last state comes from the middle one, or was added since.
  kept index loop found := by
    obtain ⟨middle, foundMiddle, keptLeft⟩ := left.kept index loop found
    obtain ⟨later, foundLater, keptRight⟩ := right.kept index middle foundMiddle
    exact ⟨later, foundLater, keptLeft.trans keptRight⟩
  origin index later found := by
    rcases right.origin index later found with ⟨middle, foundMiddle, keptRight⟩ | new
    · rcases left.origin index middle foundMiddle with ⟨loop, foundLoop, keptLeft⟩ | new
      · exact .inl ⟨loop, foundLoop, keptLeft.trans keptRight⟩
      · exact .inr (lasting keptRight new)
    · exact .inr new

/-- Changing one task in a way that keeps loops keeps them all, whatever is registered. -/
theorem update_evolves (loops : Ticker ActionLoop) (entries : HashMap String Nat) (task : Nat)
    {change : TickerTask ActionLoop → TickerTask ActionLoop}
    (keeps : ∀ loop, LoopKept loop (change loop)) :
    loops.Evolves added ({ loops with entries }.update task change) := by
  -- Other tasks keep their loops untouched.
  have changed : ∀ loop index, LoopKept loop (if task = index then change loop else loop) := by
    intro loop index
    split
    · exact keeps loop
    · exact .refl loop
  constructor
  · intro index loop found
    refine ⟨if task = index then change loop else loop, ?_, changed loop index⟩
    simp [update, List.getElem?_modify, found]
  · intro index later found
    simp only [update, List.getElem?_modify, Option.map_eq_map, Option.map_eq_some_iff] at found
    obtain ⟨loop, foundBefore, same⟩ := found
    subst same
    exact .inl ⟨loop, foundBefore, changed loop index⟩

/-- Aborting keeps the loops. -/
theorem abort_evolves (loops : Ticker ActionLoop) (ident : String) :
    loops.Evolves added (loops.abort ident) := by
  unfold abort
  split
  · exact update_evolves _ _ _ fun loop => ⟨rfl, rfl, fun _ => rfl, fun _ => rfl⟩
  · exact .refl loops

/-- Stopping keeps the loops. -/
theorem stop_evolves (loops : Ticker ActionLoop) (ident : String) :
    loops.Evolves added (loops.stop ident).2 := by
  unfold stop
  split
  · exact update_evolves _ _ _ fun loop => ⟨rfl, rfl, fun _ => rfl, fun ended => ended⟩
  · exact .refl loops

/-- Clearing keeps the loops. -/
theorem clear_evolves (loops : Ticker ActionLoop) : loops.Evolves added loops.clear.2 := by
  -- Clearing cancels tasks, and a cancelled loop is still the same loop.
  have cancels : ∀ (loop : TickerTask ActionLoop) (drained : Prop) [Decidable drained],
      LoopKept loop (if drained then { loop with cancelled := true } else loop) := by
    intro loop drained _
    split
    · exact ⟨rfl, rfl, fun _ => rfl, fun ended => ended⟩
    · exact .refl loop
  constructor
  · intro index loop found
    refine ⟨_, ?_, cancels loop (index ∈ loops.entries.entries.map Sigma.snd)⟩
    simp [clear, List.getElem?_mapIdx, found]
  · intro index later found
    simp only [clear, List.getElem?_mapIdx, Option.map_eq_some_iff] at found
    obtain ⟨loop, foundBefore, same⟩ := found
    subst same
    exact .inl ⟨loop, foundBefore, cancels loop _⟩

/-- Starting keeps the loops and adds the new one. -/
theorem start_evolves (loops : Ticker ActionLoop) (ident : String) (callback : ActionLoop)
    (new : added { id := ident, callback }) : loops.Evolves added (loops.start ident callback) := by
  -- The loop of the id is aborted first, and the new one comes last.
  have aborted : loops.Evolves added (loops.abort ident) := loops.abort_evolves ident
  constructor
  · intro index loop found
    obtain ⟨later, foundLater, kept⟩ := aborted.kept index loop found
    refine ⟨later, ?_, kept⟩
    exact (List.getElem?_append_left (List.getElem?_eq_some_iff.mp foundLater).1).trans foundLater
  · intro index later found
    simp only [start] at found
    rcases Nat.lt_or_ge index (loops.abort ident).tasks.length with old | fresh
    · rw [List.getElem?_append_left old] at found
      exact aborted.origin index later found
    · rw [List.getElem?_append_right fresh] at found
      obtain ⟨_, same⟩ := List.getElem?_eq_some_iff.mp found
      rw [List.getElem_singleton] at same
      subst same
      exact .inr new

/-- Every loop that is not cancelled is the registered one of its identifier. -/
def Registered (loops : Ticker ActionLoop) : Prop :=
  ∀ (index : Nat) (loop : TickerTask ActionLoop), loops.tasks[index]? = some loop →
    loop.cancelled = false → loops.entries.lookup loop.id = some index

/-- A loop that is alive after one task was cancelled under its id is another loop. -/
theorem Registered.removed {loops : Ticker ActionLoop} (registered : loops.Registered)
    {ident : String} {task : Nat} (entry : loops.entries.lookup ident = some task)
    {change : TickerTask ActionLoop → TickerTask ActionLoop}
    (cancels : ∀ loop, (change loop).cancelled = true) :
    ({ loops with entries := loops.entries.erase ident }.update task change).Registered := by
  -- A live loop was not the one cancelled, so it is registered under another id.
  intro index later found live
  simp only [update, List.getElem?_modify, Option.map_eq_map, Option.map_eq_some_iff] at found
  obtain ⟨loop, foundBefore, same⟩ := found
  subst same
  split at live
  · rw [cancels] at live
    cases live
  · rename_i other
    rw [if_neg other]
    have before := registered index loop foundBefore live
    show (loops.entries.erase ident).lookup loop.id = some index
    rw [HashMap.lookup_erase_ite, if_neg]
    · exact before
    · intro same
      rw [same, entry] at before
      exact other (Option.some.inj before)

/-- Aborting leaves every live loop registered. -/
theorem Registered.abort {loops : Ticker ActionLoop} (registered : loops.Registered)
    (ident : String) : (loops.abort ident).Registered := by
  unfold Ticker.abort
  split
  · rename_i task entry
    exact registered.removed entry fun _ => rfl
  · exact registered

/-- Stopping leaves every live loop registered. -/
theorem Registered.stop {loops : Ticker ActionLoop} (registered : loops.Registered)
    (ident : String) : (loops.stop ident).2.Registered := by
  unfold Ticker.stop
  split
  · rename_i task entry
    exact registered.removed entry fun _ => rfl
  · exact registered

/-- Clearing leaves no loop alive. -/
theorem Registered.clear {loops : Ticker ActionLoop} (registered : loops.Registered) :
    loops.clear.2.Registered := by
  intro index later found live
  simp only [Ticker.clear, List.getElem?_mapIdx, Option.map_eq_some_iff] at found
  obtain ⟨loop, foundBefore, same⟩ := found
  subst same
  split at live
  · cases live
  · rename_i spared
    -- A live loop was registered, so it is among those that are drained.
    have before := AList.mem_lookup_iff.mp (registered index loop foundBefore live)
    exact absurd (List.mem_map.mpr ⟨_, before, rfl⟩) spared

/-- Starting leaves every live loop registered, the new one among them. -/
theorem Registered.start {loops : Ticker ActionLoop} (registered : loops.Registered)
    (ident : String) (callback : ActionLoop) : (loops.start ident callback).Registered := by
  -- The new loop is the only live one under its id.
  have aborted := registered.abort ident
  intro index later found live
  simp only [Ticker.start] at found ⊢
  rw [HashMap.lookup_insert_ite]
  rcases Nat.lt_or_ge index (loops.abort ident).tasks.length with old | fresh
  · rw [List.getElem?_append_left old] at found
    have before := aborted index later found live
    rw [if_neg]
    · exact before
    · intro same
      rw [same, abort_entries, if_pos rfl] at before
      cases before
  · rw [List.getElem?_append_right fresh] at found
    obtain ⟨within, same⟩ := List.getElem?_eq_some_iff.mp found
    rw [List.getElem_singleton] at same
    subst same
    rw [if_pos rfl]
    rw [List.length_singleton] at within
    congr 1
    omega

/-- A change that cancels nothing and revives nothing leaves every live loop registered. -/
theorem Registered.update {loops : Ticker ActionLoop} (registered : loops.Registered)
    (task : Nat) {change : TickerTask ActionLoop → TickerTask ActionLoop}
    (keeps : ∀ loop, (change loop).id = loop.id ∧ (change loop).cancelled = loop.cancelled) :
    (loops.update task change).Registered := by
  -- The loop that changes was live before, if it is now.
  intro index later found live
  simp only [Ticker.update, List.getElem?_modify, Option.map_eq_map,
    Option.map_eq_some_iff] at found
  obtain ⟨loop, foundBefore, same⟩ := found
  subst same
  split at live
  · rename_i changed
    rw [(keeps loop).2] at live
    rw [if_pos changed, (keeps loop).1]
    exact registered index loop foundBefore live
  · rename_i other
    rw [if_neg other]
    exact registered index loop foundBefore live

end Ticker

namespace Operation

variable (task : Nat) (ident : String)

/-- What a loop is like that a task starts under an identifier. -/
def StartedBy (loop : TickerTask ActionLoop) : Prop :=
  loop.id = ident ∧ loop.callback.starter = task

/-- Operations keep the loops, adding only those their task starts. -/
theorem onLoops_evolves (operations : List Operation) (loops : Ticker ActionLoop) :
    loops.Evolves (fun loop => (∃ held, startLoop held ∈ operations) ∧ StartedBy task ident loop)
      (operations.foldl (onLoops task ident) loops) := by
  -- The induction is on the operations.
  induction operations generalizing loops with
  | nil => exact .refl loops
  | cons operation rest ih =>
    have first : loops.Evolves
        (fun loop => (∃ held, startLoop held ∈ operation :: rest) ∧ StartedBy task ident loop)
        (operation.onLoops task ident loops) := by
      cases operation with
      | startLoop held => exact loops.start_evolves _ _ ⟨⟨held, by simp⟩, rfl, rfl⟩
      | stopLoop => exact loops.stop_evolves ident
      | clearLoops => exact loops.clear_evolves
      | tickDone loop =>
        exact loops.update_evolves loops.entries loop fun _ =>
          ⟨rfl, rfl, fun cancelled => cancelled, fun ended => ended⟩
      | _ => exact .refl loops
    have later := ih (operation.onLoops task ident loops)
    refine first.trans ?_ ⟨later.kept, fun index loop found => ?_⟩
    · intro loop after kept ⟨started, by_⟩
      exact ⟨started, kept.same.trans by_.1, kept.starter.trans by_.2⟩
    · refine (later.origin index loop found).imp_right ?_
      rintro ⟨⟨held, member⟩, by_⟩
      exact ⟨⟨held, by simp [member]⟩, by_⟩

/-- Operations leave every live loop registered. -/
theorem onLoops_registered (operations : List Operation) {loops : Ticker ActionLoop}
    (registered : loops.Registered) :
    (operations.foldl (onLoops task ident) loops).Registered := by
  -- The induction is on the operations.
  induction operations generalizing loops with
  | nil => exact registered
  | cons operation rest ih =>
    apply ih
    cases operation with
    | startLoop held => exact registered.start ident _
    | stopLoop => exact registered.stop ident
    | clearLoops => exact registered.clear
    | tickDone loop => exact registered.update loop fun _ => ⟨rfl, rfl⟩
    | _ => exact registered

end Operation

end Hotki
