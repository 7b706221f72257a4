import Mathlib.Data.List.TakeWhile
import TokenSeal.Command.Run

/-!
# What a command line asks for

Reading the arguments and doing what they ask for are two steps. `demand` is the first, which needs
no configuration; `Demand.fulfil` is the second, and in a context the group of commands is the one
after the other (`invoke_eq_fulfil`). What can be said of arguments is then said of demands.

An option can be written in four ways (`Opt.Written`), and options in any order and more than once.
However they are written, the reader finds the values that were meant (`read_of_written`): the value
of an option is taken as it comes, also if it looks like an option itself.
-/

namespace TokenSeal.Command

/-! ### Reading first, doing second -/

/-- What a list of arguments asks for. -/
inductive Demand
  /-- There are no arguments. -/
  | nothing
  /-- The arguments make no sense. -/
  | refused (e : UsageError)
  | groupHelp
  | commandHelp (command : Subcommand)
  | algorithms
  | sign (request : Request)
  | verify (request : Verification)

/-- What the arguments of a command ask for. -/
def Subcommand.demand (command : Subcommand) (arguments : List Text) : Demand :=
  match read command.options true arguments with
  | .error e => .refused e
  | .ok given =>
    if given.help then .commandHelp command
    else
      match command with
      | .algorithms =>
        match given.noOthers with
        | .error e => .refused e
        | .ok () => .algorithms
      | .sign =>
        match given.forSign with
        | .error e => .refused e
        | .ok request => .sign request
      | .verify =>
        match given.forVerify with
        | .error e => .refused e
        | .ok request => .verify request

/-- What a name that is no command's asks for. -/
def demandOfName (name : Text) (rest : List Text) : Demand :=
  match read [.help] false (name :: rest) with
  | .error e => .refused e
  | .ok given => if given.help then .groupHelp else .refused (.unknownCommand name)

/-- What the arguments of the program ask for. -/
def demand (arguments : List Text) : Demand :=
  if arguments.isEmpty then .nothing
  else
    match read [.help] false arguments with
    | .error e => .refused e
    | .ok given =>
      if given.help then .groupHelp
      else
        match given.others with
        | [] => .refused .missingCommand
        | name :: rest =>
          match Subcommand.ofName? name with
          | none => demandOfName name rest
          | some command => command.demand rest

/-- Doing what is asked for. -/
def Demand.fulfil (c : Context) (logging : Logging) : Demand → Outcome
  | .nothing => { status := 2, stderr := Command.groupHelp }
  | .refused e => .ofUsage e
  | .groupHelp => { status := 0, stdout := Command.groupHelp }
  | .commandHelp command => { status := 0, stdout := Command.commandHelp command }
  | .algorithms => { status := 0, stdout := algorithmsTable }
  | .sign request => Command.sign c request
  | .verify request => Command.verify c logging request

/-- What a command does is what its demand asks for. -/
theorem runCommand_eq_fulfil (c : Context) (logging : Logging) (command : Subcommand)
    (arguments : List Text) :
    runCommand c logging command arguments = (command.demand arguments).fulfil c logging := by
  unfold runCommand Subcommand.demand
  cases read command.options true arguments with
  | error e => rfl
  | ok given =>
    by_cases hhelp : given.help = true
    · simp [hhelp, Demand.fulfil]
    · simp only [if_neg hhelp]
      cases command with
      | algorithms => cases given.noOthers <;> rfl
      | sign => cases given.forSign <;> rfl
      | verify => cases given.forVerify <;> rfl

theorem noCommand_eq_fulfil (c : Context) (logging : Logging) (name : Text) (rest : List Text) :
    noCommand name rest = (demandOfName name rest).fulfil c logging := by
  unfold noCommand demandOfName
  cases read [.help] false (name :: rest) with
  | error e => rfl
  | ok given => by_cases hhelp : given.help = true <;> simp [hhelp, Demand.fulfil]

/-- In a context, the group does what its arguments ask for. -/
theorem invoke_eq_fulfil (c : Context) (logging : Logging) (arguments : List Text) :
    invoke (.ok c) logging arguments = (demand arguments).fulfil c logging := by
  unfold invoke demand
  by_cases hempty : arguments.isEmpty = true
  · simp [hempty, Demand.fulfil]
  · simp only [if_neg hempty]
    cases read [.help] false arguments with
    | error e => rfl
    | ok given =>
      by_cases hhelp : given.help = true
      · simp [hhelp, Demand.fulfil]
      · simp only [if_neg hhelp]
        cases given.others with
        | nil => rfl
        | cons name rest =>
          dsimp only
          cases Subcommand.ofName? name with
          | none => exact noCommand_eq_fulfil c logging name rest
          | some command => exact runCommand_eq_fulfil c logging command rest

/-! ### Ways to write an option -/

/-- The ways to write an option with its value: by name or by letter, with the value attached or
next. A value attached to a letter has to be there. -/
inductive Opt.Written (o : Opt) (value : Text) : List Text → Prop
  | name : o.Written value [Text.ofString o.long, value]
  | nameAttached : o.Written value [Text.ofString o.long ++ CodePoint.ofChar '=' :: value]
  | letter {l : Char} (h : o.letter? = some l) :
    o.Written value [[hyphen, CodePoint.ofChar l], value]
  | letterAttached {l : Char} (h : o.letter? = some l) (hv : value ≠ []) :
    o.Written value [hyphen :: CodePoint.ofChar l :: value]

/-- Options with their values, one after the other, each written in some way. -/
inductive Written : List (Opt × Text) → List Text → Prop
  | nil : Written [] []
  | cons {o : Opt} {value : Text} {values : List (Opt × Text)} {front rest : List Text}
    (first : o.Written value front) (others : Written values rest) :
    Written ((o, value) :: values) (front ++ rest)

namespace Opt

/-- A name begins with two hyphens and is more than that. -/
theorem long_eq (o : Opt) : ∃ c name, Text.ofString o.long = hyphen :: hyphen :: c :: name := by
  cases o <;> exact ⟨_, _, rfl⟩

/-- Options have different long names. -/
theorem ofString_long_injective {o p : Opt} (h : Text.ofString o.long = Text.ofString p.long) :
    o = p := by
  cases o <;> cases p <;> first | rfl | exact absurd h (by decide)

/-- Options have different letters. -/
theorem letter?_injective {o p : Opt} {l m : Char} (ho : o.letter? = some l)
    (hp : p.letter? = some m) (h : CodePoint.ofChar l = CodePoint.ofChar m) :
    o = p := by
  rw [CodePoint.ofChar_inj.1 h, ← hp] at ho
  cases o <;> cases p <;> first | rfl | exact absurd ho (by decide)

/-- No name holds an equals sign. -/
theorem ne_equals_of_mem_long (o : Opt) {c : CodePoint} (h : c ∈ Text.ofString o.long) :
    (c != CodePoint.ofChar '=') = true := by
  have hall : ((Text.ofString o.long).all fun c => c != CodePoint.ofChar '=') = true := by
    cases o <;> decide
  exact List.all_eq_true.1 hall c h

/-- No option has the hyphen or the equals sign for its letter. -/
theorem letter_ne {o : Opt} {l : Char} (h : o.letter? = some l) :
    CodePoint.ofChar l ≠ hyphen ∧ CodePoint.ofChar l ≠ CodePoint.ofChar '=' := by
  cases o <;> cases h <;> decide

end Opt

variable {options : List Opt} {o : Opt}

theorem find?_long (ho : o ∈ options) :
    options.find? (fun p => Text.ofString p.long == Text.ofString o.long) = some o := by
  cases hfind : options.find? fun p => Text.ofString p.long == Text.ofString o.long with
  | none => simpa using List.find?_eq_none.1 hfind o ho
  | some p =>
    have hp := List.find?_some hfind
    rw [Opt.ofString_long_injective (beq_iff_eq.1 hp)]

theorem find?_letter (ho : o ∈ options) {l : Char} (hl : o.letter? = some l) :
    options.find? (fun p => p.letter?.map CodePoint.ofChar == some (CodePoint.ofChar l)) =
      some o := by
  cases hfind : options.find? fun p => p.letter?.map CodePoint.ofChar ==
      some (CodePoint.ofChar l) with
  | none => simpa [hl] using List.find?_eq_none.1 hfind o ho
  | some p =>
    have hp := List.find?_some hfind
    obtain ⟨m, hm, hlm⟩ := Option.map_eq_some_iff.1 (beq_iff_eq.1 hp)
    rw [Opt.letter?_injective hm hl hlm]

/-- A hyphen and a letter are no beginning of a name. -/
theorem find?_long_eq_none {c : CodePoint} (hc : c ≠ hyphen) (t : Text) :
    options.find? (fun p => Text.ofString p.long == hyphen :: c :: t) = none := by
  rw [List.find?_eq_none]
  intro p _ hp
  obtain ⟨d, name, hname⟩ := p.long_eq
  rw [beq_iff_eq, hname] at hp
  exact hc (List.cons.inj (List.cons.inj hp).2).1.symm

/-! ### Reading what was written -/

/-- A long name on its own waits for a value. -/
theorem readOption_name (ho : o ∈ options) (hv : o.takesValue = true) :
    readOption options (Text.ofString o.long) = .ok (.awaiting o (Text.ofString o.long)) := by
  have htake : (Text.ofString o.long).takeWhile (fun c => c != CodePoint.ofChar '=') =
      Text.ofString o.long := List.takeWhile_eq_self_iff.2 fun c => o.ne_equals_of_mem_long
  have hdrop : (Text.ofString o.long).dropWhile (fun c => c != CodePoint.ofChar '=') = [] :=
    List.dropWhile_eq_nil_iff.2 fun c => o.ne_equals_of_mem_long
  simp only [readOption, htake, hdrop, find?_long ho, hv]

/-- A long name takes a value behind `=`. -/
theorem readOption_nameAttached (ho : o ∈ options) (hv : o.takesValue = true) (value : Text) :
    readOption options (Text.ofString o.long ++ CodePoint.ofChar '=' :: value) =
      .ok (.attached o value) := by
  have htake : (Text.ofString o.long ++ CodePoint.ofChar '=' :: value).takeWhile
      (fun c => c != CodePoint.ofChar '=') = Text.ofString o.long := by
    rw [List.takeWhile_append_of_pos fun c => o.ne_equals_of_mem_long]
    simp
  have hdrop : (Text.ofString o.long ++ CodePoint.ofChar '=' :: value).dropWhile
      (fun c => c != CodePoint.ofChar '=') = CodePoint.ofChar '=' :: value := by
    rw [List.dropWhile_append_of_pos fun c => o.ne_equals_of_mem_long]
    simp
  simp only [readOption, htake, hdrop, find?_long ho, hv]

/-- An argument of a hyphen and an option's letter is read by its letter, whatever follows. -/
theorem readOption_letter (ho : o ∈ options) {l : Char} (hl : o.letter? = some l)
    (attached : Text) :
    readOption options (hyphen :: CodePoint.ofChar l :: attached) =
      match attached with
      | [] => .ok (.awaiting o [hyphen, CodePoint.ofChar l])
      | _ :: _ => .ok (.attached o attached) := by
  obtain ⟨hhyphen, hequals⟩ := Opt.letter_ne hl
  have htake : (hyphen :: CodePoint.ofChar l :: attached).takeWhile
      (fun c => c != CodePoint.ofChar '=') = hyphen :: CodePoint.ofChar l ::
        attached.takeWhile (fun c => c != CodePoint.ofChar '=') := by
    rw [List.takeWhile_cons_of_pos (by decide), List.takeWhile_cons_of_pos (by simpa using hequals)]
  cases attached with
  | nil =>
    simp only [readOption, htake, find?_long_eq_none hhyphen, if_neg hhyphen, readShort,
      find?_letter ho hl]
  | cons a attached =>
    simp only [readOption, htake, find?_long_eq_none hhyphen, if_neg hhyphen, readShort,
      find?_letter ho hl]

section Read

variable {mixed : Bool} {c d : CodePoint} {name value : Text} {rest : List Text}

/-- An option that waits takes the next argument, whatever it looks like. -/
theorem read_of_awaiting (hend : hyphen :: c :: name ≠ [hyphen, hyphen]) {shown : Text}
    (h : readOption options (hyphen :: c :: name) = .ok (.awaiting o shown)) :
    read options mixed ((hyphen :: c :: name) :: value :: rest) =
      (read options mixed rest).map fun g => { g with values := (o, value) :: g.values } := by
  rw [read, if_neg hend, if_pos (by simp [isOption]), h]

theorem read_of_attached (hend : hyphen :: c :: name ≠ [hyphen, hyphen])
    (h : readOption options (hyphen :: c :: name) = .ok (.attached o value)) :
    read options mixed ((hyphen :: c :: name) :: rest) =
      (read options mixed rest).map fun g => { g with values := (o, value) :: g.values } := by
  rw [read, if_neg hend, if_pos (by simp [isOption]), h]

end Read

/-- A written option is read back, whatever its value looks like. -/
theorem read_append_of_written (ho : o ∈ options) (hv : o.takesValue = true) {value : Text}
    {front : List Text} (h : o.Written value front) (mixed : Bool) (rest : List Text) :
    read options mixed (front ++ rest) =
      (read options mixed rest).map fun g => { g with values := (o, value) :: g.values } := by
  cases h with
  | name =>
    have hread := readOption_name ho hv
    obtain ⟨c, name, hname⟩ := o.long_eq
    rw [hname] at hread ⊢
    exact read_of_awaiting (by simp) hread
  | nameAttached =>
    have hread := readOption_nameAttached ho hv value
    obtain ⟨c, name, hname⟩ := o.long_eq
    rw [hname] at hread ⊢
    exact read_of_attached (by simp) hread
  | letter hl =>
    have hne := (Opt.letter_ne hl).1
    exact read_of_awaiting (by simpa using hne) (readOption_letter ho hl [])
  | letterAttached hl hvalue =>
    obtain ⟨c, value, rfl⟩ := List.exists_cons_of_ne_nil hvalue
    exact read_of_attached (by simp) (readOption_letter ho hl (c :: value))

/-- However options are written, the reader finds their values, in order. -/
theorem read_of_written {values : List (Opt × Text)} {arguments : List Text}
    (h : Written values arguments) (hvalues : ∀ p ∈ values, p.1 ∈ options ∧ p.1.takesValue = true)
    (mixed : Bool) : read options mixed arguments = .ok { values } := by
  induction h with
  | nil => rfl
  | cons first others ih =>
    obtain ⟨ho, hv⟩ := hvalues _ List.mem_cons_self
    rw [read_append_of_written ho hv first, ih fun p hp => hvalues p (List.mem_cons_of_mem _ hp)]
    rfl

/-! ### Demands of the signing and the verifying command -/

/-- The values give a request: the last value of each option counts, and options that need not be
given may be missing. -/
structure Request.GivenBy (r : Request) (values : List (Opt × Text)) : Prop where
  header : ({ values } : Given).value? .header = some r.header
  claims : ({ values } : Given).value? .claims = some r.claims
  algorithm : ({ values } : Given).value? .algorithm =
    r.algorithm.map fun a => Text.ofString a.name
  secret : ({ values } : Given).value? .secret = r.secret

theorem Request.GivenBy.request_eq {r : Request} {values : List (Opt × Text)}
    (h : r.GivenBy values) : ({ values } : Given).request = .ok r := by
  have halgorithm : ({ values } : Given).algorithm? = .ok r.algorithm := by
    unfold Given.algorithm?
    rw [h.algorithm]
    cases r.algorithm with
    | none => rfl
    | some a => simp [Algorithm.ofName?_name]
  simp [Given.request, Given.require, halgorithm, h.header, h.claims, h.secret, bind, Except.bind,
    pure, Except.pure]

/-- The arguments ask for a signature: the command's name, then its options, written in any way. -/
def Request.AskedBy (r : Request) (arguments : List Text) : Prop :=
  ∃ values options, arguments = Text.ofString Subcommand.sign.name :: options ∧
    Written values options ∧
    (∀ p ∈ values, p.1 ∈ Subcommand.sign.options ∧ p.1.takesValue = true) ∧ r.GivenBy values

/-- The arguments ask for a verification. -/
def Verification.AskedBy (v : Verification) (arguments : List Text) : Prop :=
  ∃ values options, arguments = Text.ofString Subcommand.verify.name :: options ∧
    Written values options ∧
    (∀ p ∈ values, p.1 ∈ Subcommand.verify.options ∧ p.1.takesValue = true) ∧
    v.toRequest.GivenBy values ∧ ({ values } : Given).value? .signature = some v.signature

/-- The name of a command is no option, and what follows it is left to the command. -/
theorem demand_name_cons (command : Subcommand) (arguments : List Text) :
    demand (Text.ofString command.name :: arguments) = command.demand arguments := by
  have hread : read [.help] false (Text.ofString command.name :: arguments) =
      .ok { others := Text.ofString command.name :: arguments } := by
    rw [read, if_neg (by cases command <;> decide), if_neg (by cases command <;> decide)]
    rfl
  have hname : Subcommand.ofName? (Text.ofString command.name) = some command := by
    cases command <;> decide
  simp [demand, hread, hname]

/-- Arguments that ask for a signature are read as that demand. -/
theorem Request.AskedBy.demand_eq {r : Request} {arguments : List Text} (h : r.AskedBy arguments) :
    demand arguments = .sign r := by
  obtain ⟨values, options, rfl, hwritten, hvalues, hgiven⟩ := h
  rw [demand_name_cons]
  simp [Subcommand.demand, read_of_written hwritten hvalues, Given.forSign, hgiven.request_eq,
    Given.noOthers, bind, Except.bind, pure, Except.pure]

/-- Arguments that ask for a verification are read as that demand. -/
theorem Verification.AskedBy.demand_eq {v : Verification} {arguments : List Text}
    (h : v.AskedBy arguments) : demand arguments = .verify v := by
  obtain ⟨values, options, rfl, hwritten, hvalues, hgiven, hsignature⟩ := h
  rw [demand_name_cons]
  simp [Subcommand.demand, read_of_written hwritten hvalues, Given.forVerify, hgiven.request_eq,
    Given.require, hsignature, Given.noOthers, bind, Except.bind, pure, Except.pure]

end TokenSeal.Command
