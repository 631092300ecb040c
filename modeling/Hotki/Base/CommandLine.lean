import Mathlib.Data.List.Nodup
import Mathlib.Data.List.Perm.Lattice
import Mathlib.Logic.Function.Basic

/-! Command lines as lists of options, each written as one or two arguments. -/

namespace Base

/-- An option of a command line. -/
inductive CommandOption (Token : Type) where
  /-- A flag that stands alone. -/
  | plain (name : Token)
  /-- A flag followed by its value. -/
  | pair (name value : Token)
  deriving DecidableEq

namespace CommandOption

variable {Token : Type}

/-- The flag an option is given by. -/
def name : CommandOption Token → Token
  | plain name => name
  | pair name _ => name

/-- The arguments an option is written as. -/
def tokens : CommandOption Token → List Token
  | plain name => [name]
  | pair name value => [name, value]

/-- The arguments a list of options is written as. -/
def render (options : List (CommandOption Token)) : List Token := options.flatMap tokens

@[simp] theorem render_nil : render ([] : List (CommandOption Token)) = [] := rfl

@[simp] theorem render_cons (option : CommandOption Token) (rest : List (CommandOption Token)) :
    render (option :: rest) = option.tokens ++ render rest := rfl

@[simp] theorem render_append (first second : List (CommandOption Token)) :
    render (first ++ second) = render first ++ render second :=
  List.flatMap_append

variable [DecidableEq Token]

/-- The options of other names. -/
def others (flag : Token) (options : List (CommandOption Token)) : List (CommandOption Token) :=
  options.filter fun option => decide (option.name ≠ flag)

/-- An option in place of those of its name, at the end. -/
def put (options : List (CommandOption Token)) (option : CommandOption Token) :
    List (CommandOption Token) :=
  others option.name options ++ [option]

/-- A flag, with the argument after it, wherever it stands in a list of arguments, is left out. -/
def removePairs (flag : Token) : List Token → List Token
  | [] => []
  | [arg] => if arg = flag then [] else [arg]
  | arg :: next :: rest =>
    if arg = flag then removePairs flag rest else arg :: removePairs flag (next :: rest)

variable {flag : Token} {options : List (CommandOption Token)} {option other : CommandOption Token}

/-- Another option is one of the options and has another name. -/
@[simp] theorem mem_others :
    option ∈ others flag options ↔ option ∈ options ∧ option.name ≠ flag := by
  simp [others]

/-- What stands among the options after one was put there. -/
theorem mem_put : other ∈ put options option ↔
    other ∈ options ∧ other.name ≠ option.name ∨ other = option := by
  simp [put]

/-- Leaving names out keeps the names apart. -/
theorem nodup_others (flag : Token) (distinct : (options.map name).Nodup) :
    ((others flag options).map name).Nodup :=
  distinct.sublist (List.filter_sublist.map _)

/-- An option put among options of different names is the only one of its name. -/
theorem nodup_put (option : CommandOption Token) (distinct : (options.map name).Nodup) :
    ((put options option).map name).Nodup := by
  -- The others keep their distance, and none of them has the name of the last one.
  rw [put, List.map_append, List.map_singleton, List.nodup_append]
  refine ⟨nodup_others option.name distinct, List.nodup_singleton _, ?_⟩
  intro first among second last
  obtain ⟨kept, member, rfl⟩ := List.mem_map.mp among
  rw [List.mem_singleton.mp last]
  exact (mem_others.mp member).2

/-- Whether options are those that a table gives for their names. -/
def Gives (options : List (CommandOption Token))
    (given : Token → Option (CommandOption Token)) : Prop :=
  ∀ option, option ∈ options ↔ given option.name = some option

/-- Putting an option changes what is given for its name. -/
theorem Gives.put {given : Token → Option (CommandOption Token)} (gives : Gives options given)
    (option : CommandOption Token) :
    Gives (put options option) (Function.update given option.name (some option)) := by
  intro other
  rw [mem_put, gives]
  by_cases same : other.name = option.name
  · -- Of this name there is only the option itself.
    rw [same, Function.update_self]
    simp [eq_comm]
  · rw [Function.update_of_ne same]
    have differs : other ≠ option := fun equal => same (congrArg name equal)
    simp [same, differs]

/-- Leaving a name out leaves nothing given for it. -/
theorem Gives.others {given : Token → Option (CommandOption Token)} (gives : Gives options given)
    (flag : Token) : Gives (others flag options) (Function.update given flag none) := by
  -- The other options keep their names, and this name has none left.
  intro other
  rw [mem_others, gives]
  by_cases same : other.name = flag
  · rw [same, Function.update_self]
    simp
  · rw [Function.update_of_ne same]
    simp [same]

omit [DecidableEq Token] in
/-- Options of different names are determined, up to their order, by what is given for each name. -/
theorem Gives.perm {first second : List (CommandOption Token)}
    {given : Token → Option (CommandOption Token)} (left : Gives first given)
    (right : Gives second given) (distinct : (first.map name).Nodup)
    (apart : (second.map name).Nodup) : first.Perm second := by
  apply (List.perm_ext_iff_of_nodup distinct.of_map apart.of_map).mpr
  intro option
  rw [left, right]

/-- Whether an option with a flag for its name is a pair, and the flag stands nowhere else in it. -/
def PairsAt (flag : Token) : CommandOption Token → Prop
  | plain name => name ≠ flag
  | pair name value => name ≠ flag → value ≠ flag

/-- Whether a flag stands nowhere in an option but alone. -/
def StandsAt (flag : Token) : CommandOption Token → Prop
  | plain _ => True
  | pair name value => name ≠ flag ∧ value ≠ flag

/-- Removing the pairs of a flag from written options leaves the others, written. -/
theorem removePairs_render (paired : ∀ option ∈ options, PairsAt flag option) :
    removePairs flag (render options) = render (others flag options) := by
  -- The induction is on the options, and one option is read as a whole.
  induction options with
  | nil => rfl
  | cons option rest ih =>
    have further := ih fun other member => paired other (List.mem_cons_of_mem _ member)
    have first := paired option List.mem_cons_self
    have skip : ∀ {arg : Token} {args : List Token}, arg ≠ flag →
        removePairs flag (arg :: args) = arg :: removePairs flag args := by
      intro arg args differs
      cases args with
      | nil => simp [removePairs, differs]
      | cons next args => simp [removePairs, differs]
    cases option with
    | plain name =>
      have differs : name ≠ flag := first
      simp only [render_cons, tokens, List.singleton_append, skip differs, further]
      simp [others, differs, CommandOption.name, tokens]
    | pair name value =>
      by_cases same : name = flag
      · -- The flag and the value after it go together.
        subst same
        simp [removePairs, tokens, further, others, CommandOption.name]
      · have clear : value ≠ flag := first same
        simp only [render_cons, tokens, List.cons_append, List.nil_append, skip same, skip clear,
          further]
        simp [others, same, CommandOption.name, tokens]

/-- Filtering a flag out of written options leaves the others, written. -/
theorem filter_render (alone : ∀ option ∈ options, StandsAt flag option) :
    (render options).filter (fun arg => decide (arg ≠ flag)) = render (others flag options) := by
  -- The induction is on the options, each of which is the flag or stands apart from it.
  induction options with
  | nil => rfl
  | cons option rest ih =>
    have further := ih fun other member => alone other (List.mem_cons_of_mem _ member)
    have first := alone option List.mem_cons_self
    rw [render_cons, List.filter_append, further]
    cases option with
    | plain name =>
      by_cases same : name = flag
      · simp [tokens, others, same, CommandOption.name]
      · simp [tokens, others, same, CommandOption.name]
    | pair name value =>
      obtain ⟨differs, clear⟩ : name ≠ flag ∧ value ≠ flag := first
      simp [tokens, others, differs, clear, CommandOption.name]

end CommandOption

end Base
