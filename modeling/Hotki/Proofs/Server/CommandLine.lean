import Hotki.Base.Run
import Hotki.Server.ManagedServer

/-! The options a server is spawned with are those that were last asked for. -/

namespace Hotki

open Base CommandOption

/-- What is asked of the servers a client spawns. -/
structure ServerOptions where
  socketPath : String
  logFilter : Option String := none
  eventTap : Option Bool := none
  /-- Whether servers are spawned at all. -/
  spawns : Bool := false

namespace ServerOptions

/-- The options after one more choice. -/
def choose (asked : ServerOptions) : ServerSetting → ServerOptions
  | .socketPath path => { asked with socketPath := path }
  | .autoSpawn => { asked with spawns := true }
  | .logFilter filter => { asked with logFilter := some filter }
  | .eventTapEnabled enabled => { asked with eventTap := some enabled }
  | .connectOnly => { asked with spawns := false }

/-- The options after one more move of the client. -/
def heed (asked : ServerOptions) : ClientMove → ServerOptions
  | .set _ setting => asked.choose setting
  | _ => asked

/-- What a client that began with a socket path asks for after its moves. -/
def after (path : String) (moves : List ClientMove) : ServerOptions :=
  moves.foldl heed { socketPath := path }

/-- The options that say what is asked for. -/
def commandLine (pid : UInt32) (asked : ServerOptions) : List (CommandOption String) :=
  [.plain serverFlag, .pair socketFlag asked.socketPath,
    .pair parentPidFlag (toString pid.toNat)] ++
  (asked.logFilter.map (.pair logFilterFlag)).toList ++
  if asked.eventTap = some false then [.plain disableEventTapFlag] else []

/-- Whether a process is launched with the options asked for and nothing else, in some order. -/
def Describes (pid : UInt32) (asked : ServerOptions) (config : ProcessConfig) : Prop :=
  ∃ options, config.args = render options ∧ options.Perm (asked.commandLine pid)

end ServerOptions

/-- Whether a choice gives no flag as the value of another. -/
def ServerSetting.IsClear : ServerSetting → Prop
  | .socketPath path => path ∉ serverFlags
  | .logFilter filter => filter ∉ serverFlags
  | _ => True

/-- Whether an option of a server is of the right form. -/
private def ServerOption : CommandOption String → Prop
  | .plain name => name = serverFlag ∨ name = disableEventTapFlag
  | .pair name value => name ∈ [socketFlag, parentPidFlag, logFilterFlag] ∧ value ∉ serverFlags

/-- Whether arguments are written from options of the right form, each given once. -/
private structure Lists (args : List String) (options : List (CommandOption String)) : Prop where
  written : args = render options
  distinct : (options.map name).Nodup
  formed : ∀ option ∈ options, ServerOption option

namespace Lists

variable {args : List String} {options : List (CommandOption String)}

/-- A flag that takes a value is followed by it in every option. -/
private theorem serverOption_pairsAt {flag : String} {option : CommandOption String}
    (takes : flag ∈ [socketFlag, parentPidFlag, logFilterFlag]) (formed : ServerOption option) :
    PairsAt flag option := by
  have known : flag ∈ serverFlags := by
    have among : [socketFlag, parentPidFlag, logFilterFlag] ⊆ serverFlags := by decide
    exact among takes
  cases option with
  | plain name =>
    -- The two flags that stand alone take no value.
    show name ≠ flag
    rintro rfl
    rcases formed with rfl | rfl
    · exact absurd takes (by decide)
    · exact absurd takes (by decide)
  | pair name value =>
    show name ≠ flag → value ≠ flag
    intro _ same
    exact formed.2 (same ▸ known)

/-- The flag of the event tap stands nowhere but alone. -/
private theorem serverOption_standsAt {option : CommandOption String}
    (formed : ServerOption option) :
    StandsAt disableEventTapFlag option := by
  -- A pair is formed from flags that are not the plain one, on either side.
  cases option with
  | plain name => exact trivial
  | pair name value =>
    refine ⟨?_, ?_⟩
    · rintro rfl
      exact absurd formed.1 (by decide)
    · rintro rfl
      exact absurd formed.2 (by decide)

/-- Replacing a flag and its value puts the pair among the options. -/
private theorem replace {flag value : String}
    (takes : flag ∈ [socketFlag, parentPidFlag, logFilterFlag]) (clear : value ∉ serverFlags)
    (lists : Lists args options) :
    Lists (replaceFlagPair args flag value) (put options (.pair flag value)) where
  written := by
    have paired : ∀ option ∈ options, PairsAt flag option := fun option member =>
      serverOption_pairsAt takes (lists.formed option member)
    rw [replaceFlagPair, lists.written, removePairs_render paired, put, render_append]
    rfl
  distinct := nodup_put _ lists.distinct
  formed := by
    intro option member
    rcases mem_put.mp member with ⟨kept, _⟩ | rfl
    · exact lists.formed option kept
    · exact ⟨takes, clear⟩

/-- Setting the flag of the event tap puts it among the options, or takes it from them. -/
private theorem setTap (enabled : Bool) (lists : Lists args options) :
    Lists (setPlainFlag args disableEventTapFlag enabled)
      (if enabled then put options (.plain disableEventTapFlag)
        else others disableEventTapFlag options) := by
  -- Both settings first take the flag out of the arguments; only turning the tap off puts it back.
  have filtered : args.filter (fun arg => decide (arg ≠ disableEventTapFlag)) =
      render (others disableEventTapFlag options) := by
    rw [lists.written]
    exact filter_render fun option member => serverOption_standsAt (lists.formed option member)
  cases enabled with
  | false =>
    refine ⟨?_, nodup_others _ lists.distinct, fun option member =>
      lists.formed option (mem_others.mp member).1⟩
    rw [setPlainFlag, filtered]
    exact List.append_nil _
  | true =>
    refine ⟨?_, nodup_put _ lists.distinct, ?_⟩
    · rw [setPlainFlag, filtered, if_pos rfl, if_pos rfl, put, render_append]
      rfl
    · intro option member
      rcases mem_put.mp member with ⟨kept, _⟩ | rfl
      · exact lists.formed option kept
      · exact .inr rfl

end Lists

/-- The option that is asked for under a flag. -/
private def optionAt (pid : UInt32) (asked : ServerOptions) (flag : String) :
    Option (CommandOption String) :=
  if flag = serverFlag then some (.plain serverFlag)
  else if flag = socketFlag then some (.pair socketFlag asked.socketPath)
  else if flag = parentPidFlag then some (.pair parentPidFlag (toString pid.toNat))
  else if flag = logFilterFlag then asked.logFilter.map (.pair logFilterFlag)
  else if flag = disableEventTapFlag ∧ asked.eventTap = some false then
    some (.plain disableEventTapFlag)
  else none

/-- What is asked for under a flag is an option of that name. -/
private theorem optionAt_name {pid : UInt32} {asked : ServerOptions} {flag : String}
    {option : CommandOption String} (found : optionAt pid asked flag = some option) :
    option.name = flag ∧ flag ∈ serverFlags := by
  -- The flags are tried in turn, and each answers with an option of its own name.
  unfold optionAt at found
  split at found
  · rename_i same
    cases found
    exact ⟨same.symm, same ▸ by decide⟩
  split at found
  · rename_i same
    cases found
    exact ⟨same.symm, same ▸ by decide⟩
  split at found
  · rename_i same
    cases found
    exact ⟨same.symm, same ▸ by decide⟩
  split at found
  · rename_i same
    obtain ⟨filter, _, rfl⟩ := Option.map_eq_some_iff.mp found
    exact ⟨same.symm, same ▸ by decide⟩
  split at found
  · rename_i same
    cases found
    exact ⟨same.1.symm, same.1 ▸ by decide⟩
  · cases found

/-- The command line that is asked for has the option of each flag, in the order of the flags. -/
private theorem commandLine_eq (pid : UInt32) (asked : ServerOptions) :
    asked.commandLine pid = serverFlags.filterMap (optionAt pid asked) := by
  -- Each flag is looked up by itself, and the line is their list.
  have first : optionAt pid asked serverFlag = some (.plain serverFlag) := rfl
  have second : optionAt pid asked socketFlag = some (.pair socketFlag asked.socketPath) := rfl
  have third : optionAt pid asked parentPidFlag =
      some (.pair parentPidFlag (toString pid.toNat)) := rfl
  have fourth : optionAt pid asked logFilterFlag = asked.logFilter.map (.pair logFilterFlag) := rfl
  have last : optionAt pid asked disableEventTapFlag =
      if asked.eventTap = some false then some (.plain disableEventTapFlag) else none := by
    by_cases off : asked.eventTap = some false
    · rw [if_pos off]
      simp [optionAt, off, disableEventTapFlag, serverFlag, socketFlag, parentPidFlag,
        logFilterFlag]
    · rw [if_neg off]
      simp [optionAt, off, disableEventTapFlag, serverFlag, socketFlag, parentPidFlag,
        logFilterFlag]
  unfold ServerOptions.commandLine serverFlags
  simp only [List.filterMap_cons, first, second, third, fourth, last, List.filterMap_nil]
  cases asked.logFilter with
  | none => split <;> rfl
  | some filter => split <;> rfl

/-- What stands on the command line that is asked for. -/
private theorem commandLine_gives (pid : UInt32) (asked : ServerOptions) :
    Gives (asked.commandLine pid) (optionAt pid asked) := by
  -- An option stands where its own name is asked for.
  intro option
  rw [commandLine_eq, List.mem_filterMap]
  constructor
  · rintro ⟨flag, _, found⟩
    rw [(optionAt_name found).1]
    exact found
  · intro found
    exact ⟨option.name, (optionAt_name found).2, found⟩

/-- The options asked for have different names. -/
private theorem commandLine_distinct (pid : UInt32) (asked : ServerOptions) :
    ((asked.commandLine pid).map CommandOption.name).Nodup := by
  -- The names are flags that are listed once.
  rw [commandLine_eq]
  have once : serverFlags.Nodup := by decide
  generalize serverFlags = flags at once
  induction flags with
  | nil => exact List.nodup_nil
  | cons flag rest ih =>
    obtain ⟨fresh, apart⟩ := List.nodup_cons.mp once
    rw [List.filterMap_cons]
    split
    · exact ih apart
    · rename_i option found
      rw [List.map_cons, (optionAt_name found).1]
      refine List.nodup_cons.mpr ⟨?_, ih apart⟩
      intro again
      obtain ⟨other, listed, same⟩ := List.mem_map.mp again
      obtain ⟨source, among, given⟩ := List.mem_filterMap.mp listed
      rw [(optionAt_name given).1] at same
      exact fresh (same ▸ among)

/-- The number of a process is no flag. -/
private theorem pid_clear (pid : UInt32) : toString pid.toNat ∉ serverFlags := by
  intro member
  -- A flag begins with a dash, and a number has only digits.
  have dashed : ∀ flag ∈ serverFlags, '-' ∈ flag.toList := by decide
  have dash := dashed _ member
  rw [Nat.toString_eq_repr, Nat.repr, String.toList_ofList] at dash
  exact absurd (Nat.isDigit_of_mem_toDigits (by decide) (by decide) dash) (by decide)

/-- Whether a process is launched with the options a table gives, each of the right form. -/
private def Configures (given : String → Option (CommandOption String)) (config : ProcessConfig) :
    Prop :=
  ∃ options, Lists config.args options ∧ Gives options given

namespace Configures

variable {pid : UInt32} {asked : ServerOptions} {config : ProcessConfig}
  {given : String → Option (CommandOption String)}

/-- A process that is configured with what is asked for is launched with it. -/
private theorem describes (configures : Configures (optionAt pid asked) config) :
    asked.Describes pid config := by
  obtain ⟨options, lists, gives⟩ := configures
  exact ⟨options, lists.written,
    gives.perm (commandLine_gives pid asked) lists.distinct (commandLine_distinct pid asked)⟩

/-- Replacing a flag and its value changes what is given under the flag. -/
private theorem replace {flag value : String}
    (takes : flag ∈ [socketFlag, parentPidFlag, logFilterFlag]) (clear : value ∉ serverFlags)
    (configures : Configures given config) :
    Configures (Function.update given flag (some (.pair flag value)))
      { config with args := replaceFlagPair config.args flag value } := by
  obtain ⟨options, lists, gives⟩ := configures
  exact ⟨_, lists.replace takes clear, gives.put (.pair flag value)⟩

/-- Enabling or disabling the event tap changes what is given under its flag. -/
private theorem setEventTapEnabled (enabled : Bool) (configures : Configures given config) :
    Configures (Function.update given disableEventTapFlag
      (if enabled then none else some (.plain disableEventTapFlag)))
      (config.setEventTapEnabled enabled) := by
  obtain ⟨options, lists, gives⟩ := configures
  refine ⟨_, lists.setTap (!enabled), ?_⟩
  cases enabled with
  | true => exact gives.others disableEventTapFlag
  | false => exact gives.put (.plain disableEventTapFlag)

/-- Setting a log filter if one was chosen. -/
private theorem chooseFilter {chosen : Option String}
    (clear : ∀ filter, chosen = some filter → filter ∉ serverFlags)
    (configures : Configures given config) :
    Configures (chosen.elim given fun filter =>
        Function.update given logFilterFlag (some (.pair logFilterFlag filter)))
      (chosen.elim config config.setLogFilter) := by
  cases chosen with
  | none => exact configures
  | some filter => exact configures.replace (by decide) (clear filter rfl)

/-- Setting whether the event tap is enabled if that was chosen. -/
private theorem chooseTap (chosen : Option Bool) (configures : Configures given config) :
    Configures (chosen.elim given fun enabled =>
        Function.update given disableEventTapFlag
          (if enabled then none else some (.plain disableEventTapFlag)))
      (chosen.elim config config.setEventTapEnabled) := by
  cases chosen with
  | none => exact configures
  | some enabled => exact configures.setEventTapEnabled enabled

/-- Setting a log filter, where what is asked for is known. -/
private theorem setLogFilter {filter : String} (clear : filter ∉ serverFlags)
    (configures : Configures (optionAt pid asked) config) :
    Configures (optionAt pid { asked with logFilter := some filter })
      (config.setLogFilter filter) := by
  have same : optionAt pid { asked with logFilter := some filter } =
      Function.update (optionAt pid asked) logFilterFlag (some (.pair logFilterFlag filter)) := by
    funext other
    by_cases equal : other = logFilterFlag
    · rw [equal, Function.update_self]
      rfl
    · rw [Function.update_of_ne equal]
      simp [optionAt, equal]
  rw [same]
  exact configures.replace (by decide) clear

/-- Setting a socket path, where what is asked for is known. -/
private theorem setSocketPath {path : String} (clear : path ∉ serverFlags)
    (configures : Configures (optionAt pid asked) config) :
    Configures (optionAt pid { asked with socketPath := path }) (config.setSocketPath path) := by
  have same : optionAt pid { asked with socketPath := path } =
      Function.update (optionAt pid asked) socketFlag (some (.pair socketFlag path)) := by
    funext other
    by_cases equal : other = socketFlag
    · rw [equal, Function.update_self]
      rfl
    · rw [Function.update_of_ne equal]
      simp [optionAt, equal]
  rw [same]
  exact configures.replace (by decide) clear

/-- Setting whether the event tap is enabled, where what is asked for is known. -/
private theorem setTap (enabled : Bool) (configures : Configures (optionAt pid asked) config) :
    Configures (optionAt pid { asked with eventTap := some enabled })
      (config.setEventTapEnabled enabled) := by
  have same : optionAt pid { asked with eventTap := some enabled } =
      Function.update (optionAt pid asked) disableEventTapFlag
        (if enabled then none else some (.plain disableEventTapFlag)) := by
    funext other
    by_cases equal : other = disableEventTapFlag
    · rw [equal, Function.update_self]
      cases enabled with
      | true => rfl
      | false => rfl
    · rw [Function.update_of_ne equal]
      simp [optionAt, equal]
  rw [same]
  exact configures.setEventTapEnabled enabled

/-- A process that runs as a server keeps its options. -/
private theorem ensureServerMode (configures : Configures given config)
    (server : given serverFlag = some (.plain serverFlag)) : config.ensureServerMode = config := by
  obtain ⟨options, lists, gives⟩ := configures
  have listed : CommandOption.plain serverFlag ∈ options := (gives _).mpr server
  have written : serverFlag ∈ config.args := by
    rw [lists.written]
    exact List.mem_flatMap.mpr ⟨_, listed, List.mem_singleton.mpr rfl⟩
  unfold ProcessConfig.ensureServerMode
  rw [if_pos (List.any_eq_true.mpr ⟨_, written, decide_eq_true rfl⟩)]

end Configures

/-- Whether what is given can be brought up to what is asked for. -/
private structure Extends (asked : ServerOptions) (given : String → Option (CommandOption String)) :
    Prop where
  server : given serverFlag = some (.plain serverFlag)
  filter : asked.logFilter = none → given logFilterFlag = none
  tap : asked.eventTap = none → given disableEventTapFlag = none
  rest : ∀ flag ∉ serverFlags, given flag = none

/-- What is given with the options that were chosen put in place. -/
private def placed (pid : UInt32) (asked : ServerOptions)
    (given : String → Option (CommandOption String)) : String → Option (CommandOption String) :=
  let given := Function.update given socketFlag (some (.pair socketFlag asked.socketPath))
  let given := Function.update given parentPidFlag
    (some (.pair parentPidFlag (toString pid.toNat)))
  let given := asked.logFilter.elim given fun filter =>
    Function.update given logFilterFlag (some (.pair logFilterFlag filter))
  asked.eventTap.elim given fun enabled =>
    Function.update given disableEventTapFlag
      (if enabled then none else some (.plain disableEventTapFlag))

/-- Once the options that were chosen are put in place, what is given is what is asked for. -/
private theorem Extends.placed_eq {pid : UInt32} {asked : ServerOptions}
    {given : String → Option (CommandOption String)} (within : Extends asked given) :
    placed pid asked given = optionAt pid asked := by
  funext flag
  unfold placed optionAt
  by_cases known : flag ∈ serverFlags
  · simp only [serverFlags, List.mem_cons, List.not_mem_nil, or_false] at known
    have server := within.server
    have filter := within.filter
    have tap := within.tap
    -- Each flag is put in place by its own choice, and by no other.
    rcases known with rfl | rfl | rfl | rfl | rfl
    · cases asked.logFilter <;> cases asked.eventTap <;>
        simpa [serverFlag, socketFlag, parentPidFlag, logFilterFlag, disableEventTapFlag]
          using server
    · cases asked.logFilter <;> cases asked.eventTap <;>
        simp [serverFlag, socketFlag, parentPidFlag, logFilterFlag, disableEventTapFlag]
    · cases asked.logFilter <;> cases asked.eventTap <;>
        simp [serverFlag, socketFlag, parentPidFlag, logFilterFlag, disableEventTapFlag]
    · cases chosen : asked.logFilter with
      | none =>
        cases asked.eventTap <;>
          simpa [serverFlag, socketFlag, parentPidFlag, logFilterFlag, disableEventTapFlag]
            using filter chosen
      | some filter =>
        cases asked.eventTap <;>
          simp [serverFlag, socketFlag, parentPidFlag, logFilterFlag, disableEventTapFlag]
    · cases wanted : asked.eventTap with
      | none =>
        cases asked.logFilter <;>
          simpa [serverFlag, socketFlag, parentPidFlag, logFilterFlag, disableEventTapFlag]
            using tap wanted
      | some enabled =>
        cases enabled <;>
          simp [serverFlag, socketFlag, parentPidFlag, logFilterFlag, disableEventTapFlag]
  · have nothing := within.rest flag known
    simp only [serverFlags, List.mem_cons, List.not_mem_nil, or_false, not_or] at known
    obtain ⟨server, socket, parent, filter, tap⟩ := known
    cases asked.logFilter <;> cases asked.eventTap <;>
      simp [server, socket, parent, filter, tap, nothing]

/-- A configuration that can be brought up to what is asked for becomes it. -/
private theorem spawnConfig_configures {pid : UInt32} {asked : ServerOptions}
    {managed : ManagedServer} {given : String → Option (CommandOption String)} (exe : String)
    (path : managed.socketPath = asked.socketPath)
    (filter : managed.pendingLogFilter = asked.logFilter)
    (tap : managed.pendingEventTapEnabled = asked.eventTap)
    (clear : asked.socketPath ∉ serverFlags)
    (clearFilter : ∀ filter, asked.logFilter = some filter → filter ∉ serverFlags)
    (within : Extends asked given)
    (configures : Configures given (managed.config.getD { executable := exe })) :
    Configures (optionAt pid asked) (managed.spawnConfig pid exe) := by
  have named : Configures given ((managed.config.getD { executable := exe }).setExecutable exe) :=
    configures
  have socketed := named.replace (show socketFlag ∈ _ by decide) clear
  have parented := socketed.replace (show parentPidFlag ∈ _ by decide) (pid_clear pid)
  rw [← within.placed_eq]
  unfold ManagedServer.spawnConfig placed
  dsimp only
  rw [named.ensureServerMode within.server, path, filter, tap]
  exact (parented.chooseFilter clearFilter).chooseTap asked.eventTap

/-- What a client asks for, and the configuration it keeps for that. -/
private structure Abides (pid : UInt32) (asked : ServerOptions) (managed : ManagedServer) :
    Prop where
  path : managed.socketPath = asked.socketPath
  filter : managed.pendingLogFilter = asked.logFilter
  tap : managed.pendingEventTapEnabled = asked.eventTap
  spawns : managed.autoSpawn = asked.spawns
  clear : asked.socketPath ∉ serverFlags
  clearFilter : ∀ filter, asked.logFilter = some filter → filter ∉ serverFlags
  configured : ∀ config, managed.config = some config →
    asked.spawns = true ∧ Configures (optionAt pid asked) config

namespace Abides

variable {pid : UInt32} {asked old : ServerOptions} {managed : ManagedServer}

/-- What was asked for before can be brought up to what is asked for now. -/
private theorem extends_old (filter : asked.logFilter = none → old.logFilter = none)
    (tap : asked.eventTap = none → old.eventTap = none) : Extends asked (optionAt pid old) where
  server := rfl
  filter := by
    intro omitted
    simp [optionAt, filter omitted, serverFlag, socketFlag, parentPidFlag, logFilterFlag]
  tap := by
    intro omitted
    simp [optionAt, tap omitted, serverFlag, socketFlag, parentPidFlag, logFilterFlag,
      disableEventTapFlag]
  rest := by
    intro flag unknown
    cases found : optionAt pid old flag with
    | none => rfl
    | some option => exact absurd (optionAt_name found).2 unknown

/-- A new configuration can be brought up to whatever is asked for. -/
private theorem extends_new : Extends asked
    (Function.update (fun _ => none) serverFlag (some (.plain serverFlag))) where
  server := Function.update_self ..
  filter _ := Function.update_of_ne (by decide) ..
  tap _ := Function.update_of_ne (by decide) ..
  rest flag unknown := Function.update_of_ne (fun same => unknown (by rw [same]; decide)) ..

/-- A new configuration has the flag of the server mode alone. -/
private theorem configures_new (exe : String) : Configures
    (Function.update (fun _ => none) serverFlag (some (.plain serverFlag)))
    { executable := exe } := by
  -- The new configuration is the one flag, whatever was asked for.
  refine ⟨[.plain serverFlag], ⟨rfl, List.nodup_singleton _, ?_⟩, ?_⟩
  · intro option member
    rw [List.mem_singleton.mp member]
    exact .inl rfl
  · intro option
    rw [List.mem_singleton]
    constructor
    · rintro rfl
      exact Function.update_self ..
    · intro found
      by_cases same : option.name = serverFlag
      · rw [same, Function.update_self] at found
        exact (Option.some.inj found).symm
      · rw [Function.update_of_ne same] at found
        cases found

/-- Bringing the configuration up to date gives what is asked for, whatever was before. -/
private theorem spawnConfig (exe : String) (path : managed.socketPath = asked.socketPath)
    (filter : managed.pendingLogFilter = asked.logFilter)
    (tap : managed.pendingEventTapEnabled = asked.eventTap)
    (clear : asked.socketPath ∉ serverFlags)
    (clearFilter : ∀ filter, asked.logFilter = some filter → filter ∉ serverFlags)
    (before : ∀ config, managed.config = some config → Configures (optionAt pid old) config)
    (oldFilter : asked.logFilter = none → old.logFilter = none)
    (oldTap : asked.eventTap = none → old.eventTap = none) :
    Configures (optionAt pid asked) (managed.spawnConfig pid exe) := by
  -- A configuration that is kept is brought up to date, and otherwise a new one is.
  cases kept : managed.config with
  | none =>
    apply spawnConfig_configures exe path filter tap clear clearFilter extends_new
    rw [kept]
    exact configures_new exe
  | some config =>
    apply spawnConfig_configures exe path filter tap clear clearFilter
      (extends_old oldFilter oldTap)
    rw [kept]
    exact before config kept

end Abides

namespace ManagedServer

variable (pid : UInt32) (exe : Option String) (managed : ManagedServer)

/-- What bringing the configuration up to date does. -/
theorem ensureAutoSpawnConfig_eq :
    ∃ config, managed.ensureAutoSpawnConfig pid exe = { managed with config } ∧
      (config = managed.config ∧ (managed.autoSpawn = true → exe = none) ∨
        managed.autoSpawn = true ∧ ∃ path, exe = some path ∧
          config = some (managed.spawnConfig pid path)) := by
  -- Nothing is made where no server is wanted, or where the executable is not found.
  obtain ⟨_, spawns, _⟩ := managed
  unfold ensureAutoSpawnConfig
  cases spawns with
  | false => exact ⟨_, rfl, .inl ⟨rfl, fun impossible => by cases impossible⟩⟩
  | true =>
    cases exe with
    | none => exact ⟨_, rfl, .inl ⟨rfl, fun _ => rfl⟩⟩
    | some path => exact ⟨_, rfl, .inr ⟨rfl, path, rfl, rfl⟩⟩

/-- What changing the configuration does. -/
theorem configure_eq (change : ProcessConfig → ProcessConfig) :
    ∃ config, managed.configure pid exe change = { managed with config } ∧
      (managed.autoSpawn = false ∧ config = managed.config ∨
        managed.autoSpawn = true ∧ exe = none ∧ config = managed.config.map change ∨
        managed.autoSpawn = true ∧ ∃ path, exe = some path ∧
          config = some (change (managed.spawnConfig pid path))) := by
  -- The choice is applied to the configuration there is, or to the one just made.
  unfold configure
  obtain ⟨config, same, found⟩ := ensureAutoSpawnConfig_eq pid exe managed
  rw [same]
  cases spawns : managed.autoSpawn with
  | false =>
    rw [spawns] at found
    rcases found with ⟨rfl, _⟩ | ⟨impossible, _⟩
    · exact ⟨_, by simp, .inl ⟨rfl, rfl⟩⟩
    · cases impossible
  | true =>
    rw [spawns] at found
    rcases found with ⟨rfl, unread⟩ | ⟨_, path, read, rfl⟩
    · exact ⟨_, by simp, .inr (.inl ⟨rfl, unread rfl, rfl⟩)⟩
    · exact ⟨_, by simp, .inr (.inr ⟨rfl, path, read, rfl⟩)⟩

end ManagedServer

namespace Abides

variable {pid : UInt32} {asked : ServerOptions} {managed : ManagedServer}

/-- Asking for a log filter. -/
private theorem logFilter (abides : Abides pid asked managed) (exe : Option String)
    {filter : String} (clear : filter ∉ serverFlags) :
    Abides pid (asked.choose (.logFilter filter)) (managed.setServerLogFilter pid exe filter) := by
  obtain ⟨config, same, found⟩ := ManagedServer.configure_eq pid exe
    { managed with pendingLogFilter := some filter } (·.setLogFilter filter)
  unfold ManagedServer.setServerLogFilter
  rw [same]
  have allClear : ∀ other, some filter = some other → other ∉ serverFlags := by
    intro other equal
    exact Option.some.inj equal ▸ clear
  refine ⟨abides.path, rfl, abides.tap, abides.spawns, abides.clear, allClear, ?_⟩
  intro final kept
  have kept : config = some final := kept
  rcases found with ⟨off, rfl⟩ | ⟨on, _, rfl⟩ | ⟨on, path, _, rfl⟩
  · -- Where no server is spawned there is no configuration.
    have spawns := (abides.configured final kept).1
    exact absurd (abides.spawns.trans spawns) (by rw [off]; decide)
  -- The executable is not found, so the configuration there was takes the filter.
  · obtain ⟨before, was, rfl⟩ := Option.map_eq_some_iff.mp kept
    obtain ⟨spawns, configures⟩ := abides.configured before was
    exact ⟨spawns, configures.setLogFilter clear⟩
  -- A new configuration has the filter already, and taking it again changes nothing.
  · cases kept
    refine ⟨abides.spawns.symm.trans on, ?_⟩
    have spawned : Configures (optionAt pid { asked with logFilter := some filter })
        (ManagedServer.spawnConfig pid { managed with pendingLogFilter := some filter } path) :=
      spawnConfig path abides.path rfl abides.tap abides.clear allClear
        (fun config was => (abides.configured config was).2) (fun omitted => by cases omitted) id
    have twice := spawned.setLogFilter clear
    exact twice

/-- Asking for the event tap, or for none. -/
private theorem eventTap (abides : Abides pid asked managed) (exe : Option String)
    (enabled : Bool) :
    Abides pid (asked.choose (.eventTapEnabled enabled))
      (managed.setServerEventTapEnabled pid exe enabled) := by
  -- The same three cases as for a filter: no server wanted, no executable, or a configuration.
  obtain ⟨config, same, found⟩ := ManagedServer.configure_eq pid exe
    { managed with pendingEventTapEnabled := some enabled } (·.setEventTapEnabled enabled)
  unfold ManagedServer.setServerEventTapEnabled
  rw [same]
  refine ⟨abides.path, abides.filter, rfl, abides.spawns, abides.clear, abides.clearFilter, ?_⟩
  intro final kept
  have kept : config = some final := kept
  rcases found with ⟨off, rfl⟩ | ⟨on, _, rfl⟩ | ⟨on, path, _, rfl⟩
  · have spawns := (abides.configured final kept).1
    exact absurd (abides.spawns.trans spawns) (by rw [off]; decide)
  · obtain ⟨before, was, rfl⟩ := Option.map_eq_some_iff.mp kept
    obtain ⟨spawns, configures⟩ := abides.configured before was
    exact ⟨spawns, configures.setTap enabled⟩
  · cases kept
    refine ⟨abides.spawns.symm.trans on, ?_⟩
    have spawned : Configures (optionAt pid { asked with eventTap := some enabled })
        (ManagedServer.spawnConfig pid { managed with pendingEventTapEnabled := some enabled }
          path) :=
      spawnConfig path abides.path abides.filter rfl abides.clear abides.clearFilter
        (fun config was => (abides.configured config was).2) id fun omitted => by cases omitted
    have twice := spawned.setTap enabled
    exact twice

/-- Every choice is heeded. -/
private theorem apply (abides : Abides pid asked managed) (exe : Option String)
    {setting : ServerSetting} (clear : setting.IsClear) :
    Abides pid (asked.choose setting) (managed.apply pid exe setting) := by
  -- One case for each choice, with the configuration that it leaves.
  cases setting with
  | socketPath path =>
    refine ⟨rfl, abides.filter, abides.tap, abides.spawns, clear, abides.clearFilter, ?_⟩
    intro final kept
    obtain ⟨before, was, rfl⟩ := Option.map_eq_some_iff.mp kept
    obtain ⟨spawns, configures⟩ := abides.configured before was
    exact ⟨spawns, configures.setSocketPath clear⟩
  | autoSpawn =>
    obtain ⟨config, same, found⟩ := ManagedServer.ensureAutoSpawnConfig_eq pid exe
      { managed with autoSpawn := true }
    show Abides pid _ (managed.enableAutoSpawnServer pid exe)
    unfold ManagedServer.enableAutoSpawnServer
    rw [same]
    refine ⟨abides.path, abides.filter, abides.tap, rfl, abides.clear, abides.clearFilter, ?_⟩
    intro final kept
    have kept : config = some final := kept
    refine ⟨rfl, ?_⟩
    rcases found with ⟨rfl, _⟩ | ⟨_, path, _, rfl⟩
    · exact (abides.configured final kept).2
    · cases kept
      exact spawnConfig path abides.path abides.filter abides.tap abides.clear abides.clearFilter
        (fun config was => (abides.configured config was).2) id id
  | logFilter filter => exact abides.logFilter exe clear
  | eventTapEnabled enabled => exact abides.eventTap exe enabled
  | connectOnly =>
    exact ⟨abides.path, abides.filter, abides.tap, rfl, abides.clear, abides.clearFilter,
      fun config kept => by cases kept⟩

end Abides

namespace ManagedClient

/-- What the spawned processes were launched with. -/
private def launched (state : ManagedClient) : List ProcessConfig :=
  state.children.map ServerChild.config

/-- Whether a change leaves alone what is asked for and what the processes were launched with. -/
private def Keeps (state next : ManagedClient) : Prop :=
  next.launched = state.launched ∧ ∃ server, next.managed = { state.managed with server }

namespace Keeps

variable {state middle next : ManagedClient}

private theorem refl (state : ManagedClient) : Keeps state state := ⟨rfl, _, rfl⟩

private theorem trans (first : Keeps state middle) (second : Keeps middle next) :
    Keeps state next := by
  obtain ⟨launched, server, managed⟩ := first
  obtain ⟨launched', server', managed'⟩ := second
  exact ⟨launched'.trans launched, server', by rw [managed', managed]⟩

/-- Only the call and the connection differ. -/
private theorem call (state : ManagedClient) (connected : Bool) (call : ClientCall) :
    Keeps state { state with connected, call } :=
  ⟨rfl, _, rfl⟩

/-- Only the process that is tracked differs, besides. -/
private theorem track (state : ManagedClient) (server : Option Nat) (connected : Bool)
    (call : ClientCall) :
    Keeps state { state with managed := { state.managed with server }, connected, call } :=
  ⟨rfl, _, rfl⟩

private theorem modifyChild (state : ManagedClient) (child : Nat)
    {change : ServerChild → ServerChild} (same : ∀ found, (change found).config = found.config) :
    Keeps state (state.modifyChild child change) := by
  -- The change leaves what was launched, so the list of it is the same.
  refine ⟨?_, _, rfl⟩
  show (state.children.modify child change).map _ = state.children.map _
  apply List.ext_getElem?
  intro index
  rw [List.getElem?_map, List.getElem?_map, List.getElem?_modify]
  cases state.children[index]? with
  | none => rfl
  | some found =>
    by_cases here : child = index
    · simp [here, same]
    · simp [here]

private theorem reap (state : ManagedClient) (child : Nat) :
    Keeps state (state.modifyChild child ServerChild.reap) :=
  modifyChild state child fun _ => rfl

/-- A process keeps its configuration when its handle is dropped. -/
private theorem release (state : ManagedClient) (child : Nat) (answers : DropAnswers) :
    Keeps state (state.modifyChild child (·.release answers)) := by
  refine modifyChild state child fun found => ?_
  unfold ServerChild.release
  repeat' split
  all_goals rfl

private theorem finish (state : ManagedClient) : Keeps state state.finish :=
  track state none false _

private theorem succeed (state : ManagedClient) (spawned : Option Nat) :
    Keeps state (state.succeed spawned) :=
  track state spawned true _

private theorem fail (state : ManagedClient) (spawned : Option Nat) :
    Keeps state (state.fail spawned) := by
  cases spawned with
  | none => exact finish state
  | some child => exact call state state.connected (.failing child)

private theorem checked {spawned : Option Nat} {place : ConnectPlace}
    (found : state.checked spawned place = some next) : Keeps state next := by
  unfold ManagedClient.checked at found
  split at found
  · cases found
    exact call state state.connected _
  · cases found
    exact call state state.connected _
  · cases found
    split
    · exact call state state.connected _
    · exact fail state spawned
  · cases found

private theorem check {spawned : Option Nat} {place : ConnectPlace} {readable : Bool}
    (found : state.check spawned place readable = some next) : Keeps state next := by
  -- A process whose status is read is reaped, and a failure stops what was spawned.
  unfold ManagedClient.check at found
  split at found
  · exact checked found
  · obtain ⟨middle, further, rfl⟩ := Option.map_eq_some_iff.mp found
    split
    · exact fail state _
    · split
      · exact checked further
      · exact (reap state _).trans (fail _ _)

private theorem stopChild (child : Nat) (readable : Bool) (waiting : ClientCall)
    {done : ManagedClient → ManagedClient} (after : ∀ state, Keeps state (done state)) :
    Keeps state (state.stopChild child readable waiting done) := by
  unfold ManagedClient.stopChild
  split
  · exact after state
  split
  · have signalled : Keeps state (state.modifyChild child ServerChild.signal) :=
      modifyChild state child fun _ => rfl
    exact signalled.trans (call _ _ waiting)
  · exact (reap state child).trans (after _)

private theorem rest (state : ManagedClient) : Keeps state state.rest :=
  call state state.connected .idle

private theorem stop {readable : Bool} (found : state.stop readable = some next) :
    Keeps state next := by
  unfold ManagedClient.stop at found
  split at found
  · cases found
    exact stopChild _ _ _ finish
  · split at found
    · cases found
      exact rest state
    · cases found
      exact (track state none state.connected state.call).trans (stopChild _ _ _ rest)
  · cases found

/-- What follows a process that was waited for. -/
private theorem awaited {child : Nat} {done : ManagedClient → ManagedClient}
    (found : state.awaited = some (child, done)) (other : ManagedClient) :
    Keeps other (done other) := by
  unfold ManagedClient.awaited at found
  split at found
  · cases found
    exact finish other
  · cases found
    exact rest other
  · cases found

private theorem cancel (found : state.cancel = some next) : Keeps state next := by
  -- A call that is dropped leaves its process to the drop of the handle.
  unfold ManagedClient.cancel at found
  split at found
  · cases found
    rename_i spawned _ _
    cases spawned with
    | none => exact finish state
    | some child => exact call state state.connected _
  · cases found
    rename_i spawned _ _
    cases spawned with
    | none => exact finish state
    | some child => exact call state state.connected _
  · cases found
    exact finish state
  · cases found
    exact rest state
  · cases found
    exact rest state
  · cases found

end Keeps

/-- What a move that is no choice does to what processes are launched with. -/
private theorem step_launched {pid : UInt32} {state next : ManagedClient} {move : ClientMove}
    (other : ∀ exe setting, move ≠ .set exe setting) (stepped : state.step pid move = some next) :
    Keeps state next ∨
    ∃ outcome config, move = .connect outcome ∧ state.managed.config = some config ∧
      next.launched = state.launched ++ [config] ∧
      ∃ server, next.managed = { state.managed with server } := by
  cases move with
  | set exe setting => exact absurd rfl (other exe setting)
  | connect outcome =>
    obtain ⟨_, same⟩ := Option.ite_none_right_eq_some.mp stepped
    cases same
    unfold ManagedClient.connect
    split
    · exact .inl (.refl state)
    split
    · exact .inl (.call state _ _)
    · rename_i config found
      cases outcome with
      | failed => exact .inl (.finish state)
      | died read =>
        -- The process is launched, and the client ends for it.
        right
        cases read with
        | true =>
          obtain ⟨same, server, kept⟩ := Keeps.finish { state with
            children := state.children ++ [{ config, alive := false, reaped := true }] }
          refine ⟨.died true, config, rfl, found, ?_, server, kept⟩
          rw [same, launched, launched, List.map_append]
          rfl
        | false =>
          refine ⟨.died false, config, rfl, found, ?_, _, rfl⟩
          rw [launched, launched, List.map_append]
          rfl
      | running =>
        right
        refine ⟨.running, config, rfl, found, ?_, _, rfl⟩
        rw [launched, launched, List.map_append]
        rfl
  -- None of the moves from here on launches or reads a configuration.
  | poll elapsed =>
    left
    unfold step at stepped
    dsimp only at stepped
    split at stepped
    · cases stepped
      exact .call state _ _
    · cases stepped
  | check readable =>
    left
    unfold step at stepped
    dsimp only at stepped
    split at stepped
    · exact .check stepped
    · cases stepped
  | attempt connects =>
    left
    unfold step at stepped
    dsimp only at stepped
    split at stepped
    · cases stepped
      split
      · exact .succeed state _
      · exact .call state _ _
    · cases stepped
  | wake =>
    left
    unfold step at stepped
    dsimp only at stepped
    split at stepped
    · cases stepped
      exact .call state _ _
    · cases stepped
      exact .call state _ _
    · cases stepped
  | disconnect =>
    obtain ⟨_, same⟩ := Option.ite_none_right_eq_some.mp stepped
    cases same
    exact .inl (.call state _ _)
  | shutdown =>
    obtain ⟨_, same⟩ := Option.ite_none_right_eq_some.mp stepped
    cases same
    exact .inl (.call state _ _)
  | answered ok =>
    obtain ⟨_, same⟩ := Option.ite_none_right_eq_some.mp stepped
    cases same
    exact .inl (.call state _ _)
  | stop readable => exact .inl (.stop stepped)
  | noticed =>
    left
    obtain ⟨⟨child, done⟩, found, further⟩ := Option.bind_eq_some_iff.mp stepped
    dsimp only at further
    split at further
    · cases further
    · cases further
      exact (Keeps.reap state child).trans (.awaited found _)
  | timedOut outcome =>
    left
    obtain ⟨⟨child, done⟩, found, rfl⟩ := Option.map_eq_some_iff.mp stepped
    have killed : Keeps state (state.modifyChild child ServerChild.finish) :=
      .modifyChild state child fun _ => rfl
    dsimp only
    split
    · exact killed.trans (.awaited found _)
    · exact .awaited found state
  | released answers =>
    left
    unfold step at stepped
    dsimp only at stepped
    split at stepped
    · cases stepped
      split
      · exact (Keeps.release state _ answers).trans (.finish _)
      · exact (Keeps.release state _ answers).trans (.rest _)
    · cases stepped
  | cancel => exact .inl (.cancel stepped)
  | drop =>
    obtain ⟨_, same⟩ := Option.ite_none_right_eq_some.mp stepped
    cases same
    exact .inl (.finish state)
  | exits child =>
    obtain ⟨_, same⟩ := Option.ite_none_right_eq_some.mp stepped
    cases same
    exact .inl (.modifyChild state child fun _ => rfl)

end ManagedClient

namespace ManagedServer

/-- A choice made where the executable is found leaves a configuration wherever one is wanted. -/
private theorem apply_ready {pid : UInt32} {exe : Option String} {managed : ManagedServer}
    (setting : ServerSetting) (read : exe ≠ none)
    (ready : managed.autoSpawn = true → managed.config ≠ none) :
    (managed.apply pid exe setting).autoSpawn = true →
      (managed.apply pid exe setting).config ≠ none := by
  -- The executable is found, so a choice that wants a server leaves a configuration for it.
  cases setting with
  | socketPath path =>
    intro on
    show managed.config.map _ ≠ none
    rw [Ne, Option.map_eq_none_iff]
    exact ready on
  | autoSpawn =>
    obtain ⟨config, same, found⟩ := ensureAutoSpawnConfig_eq pid exe
      { managed with autoSpawn := true }
    show (managed.enableAutoSpawnServer pid exe).autoSpawn = true →
      (managed.enableAutoSpawnServer pid exe).config ≠ none
    unfold enableAutoSpawnServer
    rw [same]
    rintro _
    rcases found with ⟨_, unread⟩ | ⟨_, path, _, rfl⟩
    · exact absurd (unread rfl) read
    · exact Option.some_ne_none _
  | logFilter filter =>
    obtain ⟨config, same, found⟩ := configure_eq pid exe
      { managed with pendingLogFilter := some filter } (·.setLogFilter filter)
    show (managed.setServerLogFilter pid exe filter).autoSpawn = true →
      (managed.setServerLogFilter pid exe filter).config ≠ none
    unfold setServerLogFilter
    rw [same]
    intro on
    rcases found with ⟨off, _⟩ | ⟨_, unread, _⟩ | ⟨_, path, _, rfl⟩
    · exact absurd (off.symm.trans on) (by decide)
    · exact absurd unread read
    · exact Option.some_ne_none _
  | eventTapEnabled enabled =>
    obtain ⟨config, same, found⟩ := configure_eq pid exe
      { managed with pendingEventTapEnabled := some enabled } (·.setEventTapEnabled enabled)
    show (managed.setServerEventTapEnabled pid exe enabled).autoSpawn = true →
      (managed.setServerEventTapEnabled pid exe enabled).config ≠ none
    unfold setServerEventTapEnabled
    rw [same]
    intro on
    rcases found with ⟨off, _⟩ | ⟨_, unread, _⟩ | ⟨_, path, _, rfl⟩
    · exact absurd (off.symm.trans on) (by decide)
    · exact absurd unread read
    · exact Option.some_ne_none _
  -- No server is wanted any more.
  | connectOnly => exact fun on => by cases on

end ManagedServer

/-- What holds of a client after moves that give no flag as a value. -/
private structure Launches (pid : UInt32) (path : String) (past : List ClientMove)
    (state : ManagedClient) : Prop where
  abides : Abides pid (.after path past) state.managed
  launched : ∀ config ∈ state.launched, ∃ before outcome,
    (before ++ [.connect outcome]).IsPrefix past ∧ (ServerOptions.after path before).spawns = true ∧
      Configures (optionAt pid (.after path before)) config
  ready : (∀ exe setting, ClientMove.set exe setting ∈ past → exe ≠ none) →
    state.managed.autoSpawn = true → state.managed.config ≠ none

/-- What is asked for after one more move. -/
private theorem after_snoc (path : String) (past : List ClientMove) (move : ClientMove) :
    ServerOptions.after path (past ++ [move]) = (ServerOptions.after path past).heed move := by
  rw [ServerOptions.after, List.foldl_append]
  rfl

/-- Every move keeps the client to what it was asked for. -/
private theorem Launches.step {pid : UInt32} {path : String} {past : List ClientMove}
    {state next : ManagedClient} {move : ClientMove} (launches : Launches pid path past state)
    (clear : ∀ exe setting, move = .set exe setting → setting.IsClear)
    (stepped : state.step pid move = some next) : Launches pid path (past ++ [move]) next := by
  have earlier : ∀ {config}, config ∈ state.launched → ∃ before outcome,
      (before ++ [.connect outcome]).IsPrefix (past ++ [move]) ∧
        (ServerOptions.after path before).spawns = true ∧
        Configures (optionAt pid (.after path before)) config := by
    intro config among
    obtain ⟨before, outcome, prior, spawns, configures⟩ := launches.launched config among
    exact ⟨before, outcome, prior.trans (List.prefix_append _ _), spawns, configures⟩
  -- If all settings found the executable, so did those of the past.
  have unset : (∀ exe setting, ClientMove.set exe setting ∈ past ++ [move] → exe ≠ none) →
      ∀ exe setting, ClientMove.set exe setting ∈ past → exe ≠ none := by
    intro read exe setting member
    exact read exe setting (List.mem_append_left _ member)
  by_cases choice : ∃ exe setting, move = .set exe setting
  · -- A choice changes what is asked for, and the configuration with it.
    obtain ⟨exe, setting, rfl⟩ := choice
    obtain ⟨_, same⟩ := Option.ite_none_right_eq_some.mp stepped
    cases same
    refine ⟨?_, fun config among => earlier among, fun read => ?_⟩
    · rw [after_snoc]
      exact launches.abides.apply exe (clear exe setting rfl)
    · exact ManagedServer.apply_ready setting (read exe setting (by simp))
        (launches.ready (unset read))
  -- Every other move leaves the choices, and launches at most with the configuration in force.
  have other : ∀ exe setting, move ≠ .set exe setting := fun exe setting same =>
    choice ⟨exe, setting, same⟩
  have unheeded : (ServerOptions.after path past).heed move = .after path past := by
    cases move with
    | set exe setting => exact absurd rfl (other exe setting)
    | _ => rfl
  have abides := launches.abides
  rcases ManagedClient.step_launched other stepped with
    ⟨launched, server, managed⟩ | ⟨outcome, config, rfl, found, launched, server, managed⟩
  · refine ⟨?_, ?_, ?_⟩
    · rw [after_snoc, unheeded, managed]
      exact { abides with }
    · rw [launched]
      exact fun config among => earlier among
    · rw [managed]
      exact fun read => launches.ready (unset read)
  · refine ⟨?_, ?_, ?_⟩
    · rw [after_snoc, unheeded, managed]
      exact { abides with }
    · -- What the new process is launched with is what is asked for now.
      rw [launched]
      intro other among
      rcases List.mem_append.mp among with prior | new
      · exact earlier prior
      · cases List.mem_singleton.mp new
        obtain ⟨spawns, configures⟩ := abides.configured config found
        exact ⟨past, outcome, List.prefix_rfl, spawns, configures⟩
    · rw [managed]
      exact fun read => launches.ready (unset read)

/--
A server is spawned with exactly the options that were last asked for.

In every run of a client, with its settings made in any order, between connects or before them, and
with the executable found or not at each of them, the configuration it keeps and that of every
process it spawned consist of the flag of the server mode, the last socket path, the process of the
client, the last log filter if there is one and the flag that disables the event tap if that was
asked for last, each of them once. A configuration is kept only if servers are to be spawned, and
then there is one if the executable was always found. No path and no filter may be a flag itself.
-/
theorem server_command_line {pid : UInt32} {path : String} {moves : List ClientMove}
    {state : ManagedClient} (clear : path ∉ serverFlags)
    (allClear : ∀ exe setting, ClientMove.set exe setting ∈ moves → setting.IsClear)
    (run : Run (ManagedClient.Steps pid) { managed := { socketPath := path } } moves state) :
    (∀ config, state.managed.config = some config →
      (ServerOptions.after path moves).spawns = true ∧
        (ServerOptions.after path moves).Describes pid config) ∧
    (∀ child ∈ state.children, ∃ before outcome,
      (before ++ [.connect outcome]).IsPrefix moves ∧
        (ServerOptions.after path before).spawns = true ∧
        (ServerOptions.after path before).Describes pid child.config) ∧
    ((∀ exe setting, ClientMove.set exe setting ∈ moves → exe ≠ none) →
      (ServerOptions.after path moves).spawns = true → state.managed.config ≠ none) := by
  -- The launches are kept along the run; the clear choices are needed to read them back.
  have launches : (∀ exe setting, ClientMove.set exe setting ∈ moves → setting.IsClear) →
      Launches pid path moves state := by
    refine run.trace_invariant (fun past reached =>
      (∀ exe setting, ClientMove.set exe setting ∈ past → setting.IsClear) →
        Launches pid path past reached) ?_ [] ?_
    · intro past reached move next stepped held allClear
      apply (held fun exe setting member =>
        allClear exe setting (List.mem_append_left _ member)).step ?_ stepped
      rintro exe setting rfl
      exact allClear exe setting (by simp)
    · intro _
      refine ⟨⟨rfl, rfl, rfl, rfl, clear, ?_, ?_⟩, ?_, ?_⟩
      · exact fun filter found => by cases found
      · exact fun config found => by cases found
      · exact fun config among => by cases among
      · exact fun _ on => by cases on
  have launches := launches allClear
  refine ⟨?_, ?_, ?_⟩
  · intro config found
    obtain ⟨spawns, configures⟩ := launches.abides.configured config found
    exact ⟨spawns, configures.describes⟩
  · intro child among
    obtain ⟨before, outcome, prior, spawns, configures⟩ :=
      launches.launched child.config (List.mem_map_of_mem among)
    exact ⟨before, outcome, prior, spawns, configures.describes⟩
  · intro read spawns
    exact launches.ready read (launches.abides.spawns.trans spawns)

/-- The conclusion where a filter is set before servers are spawned and the path changes after. -/
theorem server_command_line_moved :
    ∃ state config, Run (ManagedClient.Steps 7) { managed := { socketPath := "/a.sock" } }
      [.set none (.logFilter "info"), .set (some "/hotki") .autoSpawn,
        .set none (.socketPath "/b.sock")] state ∧
      state.managed.config = some config ∧
      config.args = ["--server", "--parent-pid", "7", "--log-filter", "info", "--socket",
        "/b.sock"] ∧
      (ServerOptions.after "/a.sock" [.set none (.logFilter "info"),
        .set (some "/hotki") .autoSpawn,
        .set none (.socketPath "/b.sock")]).Describes 7 config := by
  -- The last server is launched after the path has changed, with the filter of before.
  obtain ⟨state, shown, run⟩ := Run.of_foldlM (fun state move => ManagedClient.step 7 state move)
    ({ managed := { socketPath := "/a.sock" } } : ManagedClient)
    [.set none (.logFilter "info"), .set (some "/hotki") .autoSpawn,
      .set none (.socketPath "/b.sock")]
    (fun state => state.managed.config)
    (some { executable := "/hotki", args := ["--server", "--parent-pid", "7", "--log-filter",
      "info", "--socket", "/b.sock"] }) (by decide +kernel)
  have clear : ∀ exe setting, ClientMove.set exe setting ∈
      [.set none (.logFilter "info"), .set (some "/hotki") .autoSpawn,
        .set none (.socketPath "/b.sock")] → setting.IsClear := by
    intro exe setting member
    simp only [List.mem_cons, List.not_mem_nil, or_false] at member
    rcases member with same | same | same
    · cases same
      show "info" ∉ serverFlags
      decide
    · cases same
      exact trivial
    · cases same
      show "/b.sock" ∉ serverFlags
      decide
  obtain ⟨kept, _⟩ := server_command_line (by decide) clear run
  exact ⟨state, _, run, shown, rfl, (kept _ shown).2⟩

end Hotki
