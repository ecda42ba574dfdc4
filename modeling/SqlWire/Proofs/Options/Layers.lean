import Mathlib
import SqlWire.CommandLine.Layering

/-!
# Options in layers

A `Layer` sets some options and leaves the others to what lies beneath. The keys of a document are a
layer (`Options.ofEntries_eq_some_iff`) and so are the flags of a command line, so the options of a
command are the flags over the keys over the defaults, whatever is set where.

They are checked when all layers lie on each other. But what a file holds is checked before that
too, with nothing but the defaults beneath it. So the flags can make up for what the defaults lack
and not for what a file lacks : `CommandLine.options_layered` says when a command has its options,
which ones, and with which fault it is refused otherwise.
-/

namespace SqlWire

/-! ## Layers -/

/-- The options that are set in one place. -/
structure Layer where
  host : Option String := none
  port : Option UInt16 := none
  user : Option String := none
  password : Option String := none
  tenant : Option String := none
  fetchSize : Option UInt32 := none
  connectTimeout : Option UInt64 := none
  clientAddress : Option String := none

namespace Layer

/-- The options with a layer over them. -/
def upon (layer : Layer) (base : Options) : Options where
  host := layer.host.getD base.host
  port := layer.port.getD base.port
  user := layer.user.getD base.user
  password := layer.password.getD base.password
  tenant := layer.tenant.or base.tenant
  fetchSize := layer.fetchSize.getD base.fetchSize
  connectTimeout := layer.connectTimeout.getD base.connectTimeout
  clientAddress := layer.clientAddress.or base.clientAddress

end Layer

/-! ## Documents -/

/-- An empty text is an empty document : one blank line, which no line end has to end. -/
theorem Toml.parse?_empty : Toml.parse? "" = some [] := by
  have blank : line [] = some (.blank, []) := rfl
  have unmarked : Text.Parser.optional (Text.Parser.char '\ufeff') [] = some (none, []) := rfl
  have once : Text.Parser.many line [] = some ([.blank], []) := by
    rw [Text.Parser.many, blank]
    simp only [Nat.lt_irrefl, if_false]
  have read : lines "".toList = some ([.blank], []) := by
    simp only [lines, Bind.bind, Text.Parser.bind, String.toList_empty, unmarked, once]
    rfl
  simp only [parse?, read, Option.bind_eq_bind, Option.bind_some]
  rfl

namespace Options

open Toml

/-- The document has the keys that the layer sets, with these values, and of the other options none.
-/
structure Sets (entries : Entries) (keys : Layer) : Prop where
  host : entries.lookup "host" = keys.host.map .text
  port : entries.lookup "port" = keys.port.map fun n => .integer n.toNat
  user : entries.lookup "user" = keys.user.map .text
  password : entries.lookup "password" = keys.password.map .text
  tenant : entries.lookup "tenant" = keys.tenant.map .text
  fetchSize : entries.lookup "fetch_size" = keys.fetchSize.map fun n => .integer n.toNat
  connectTimeout :
    entries.lookup "connect_timeout_secs" = keys.connectTimeout.map fun n => .integer n.toNat
  clientAddress : entries.lookup "client_addr" = keys.clientAddress.map .text

variable {entries : Entries} {keys : Layer} {key otherwise : String}

theorem textAt?_eq_some_iff {text : Option String} :
    textAt? entries key = some text ↔ entries.lookup key = text.map .text := by
  unfold textAt?
  split
  · next none => cases text <;> simp [none]
  · next value found => cases text <;> simp [found]
  · next node notText found =>
    cases text with
    | none => simp [found]
    | some value => simpa [found] using notText value

theorem textAt_eq_some_iff {value : String} : textAt entries key otherwise = some value ↔
    ∃ text : Option String, entries.lookup key = text.map .text ∧ text.getD otherwise = value := by
  simp only [textAt, Option.map_eq_some_iff, textAt?_eq_some_iff]

section Words

variable {α : Type} {toNat : α → Nat} {ofNat : Nat → α} {width : Nat}

/-- A number is the word under its key, or the default. -/
theorem numberAt_eq_some_iff (lt : ∀ a, toNat a < 2 ^ width)
    (toNat_ofNat : ∀ n < 2 ^ width, toNat (ofNat n) = n) {base value : Nat} :
    numberAt entries key width base = some value ↔
      ∃ word : Option α, entries.lookup key = word.map (fun a => .integer (toNat a)) ∧
        (word.map toNat).getD base = value := by
  unfold numberAt
  split
  · next none =>
    constructor
    · rintro ⟨⟩
      exact ⟨Option.none, by simpa using none, rfl⟩
    · rintro ⟨word, found, rfl⟩
      cases word with
      | none => rfl
      | some a => simp [none] at found
  · next n found =>
    rw [Option.ite_none_right_eq_some, Option.some.injEq]
    constructor
    · rintro ⟨⟨nonneg, below⟩, rfl⟩
      have same : toNat (ofNat n.toNat) = n.toNat := toNat_ofNat _ ((Int.toNat_lt nonneg).2 below)
      refine ⟨some (ofNat n.toNat), ?_, same⟩
      rw [found, Option.map_some, same, Int.toNat_of_nonneg nonneg]
    · rintro ⟨word, found', rfl⟩
      cases word with
      | none => simp [found] at found'
      | some a =>
        obtain rfl : n = toNat a := by simpa [found] using found'
        exact ⟨⟨Int.natCast_nonneg _, Int.ofNat_lt.2 (lt a)⟩, rfl⟩
  · next node notInteger found =>
    refine iff_of_false nofun ?_
    rintro ⟨word, found', -⟩
    cases word with
    | none => simp [found] at found'
    | some a => exact notInteger (toNat a) (by simpa [found] using found')

theorem ofNat_getD (ofNat_toNat : ∀ a, ofNat (toNat a) = a) (word : Option α) (base : α) :
    ofNat ((word.map toNat).getD (toNat base)) = word.getD base := by
  cases word <;> exact ofNat_toNat _

end Words

/-- The keys of a document are of the right types exactly if they are a layer, and then the document
has the options of this layer over the defaults. -/
theorem ofEntries_eq_some_iff {options : Options} :
    ofEntries entries = some options ↔ ∃ keys, Sets entries keys ∧ options = keys.upon {} := by
  have words16 := ofNat_getD fun _ => UInt16.ofNat_toNat
  have words32 := ofNat_getD fun _ => UInt32.ofNat_toNat
  have words64 := ofNat_getD fun _ => UInt64.ofNat_toNat
  simp only [ofEntries, Option.bind_eq_bind, Option.bind_eq_some_iff, textAt_eq_some_iff,
    textAt?_eq_some_iff,
    numberAt_eq_some_iff UInt16.toNat_lt fun _ => UInt16.toNat_ofNat_of_lt',
    numberAt_eq_some_iff UInt32.toNat_lt fun _ => UInt32.toNat_ofNat_of_lt',
    numberAt_eq_some_iff UInt64.toNat_lt fun _ => UInt64.toNat_ofNat_of_lt']
  constructor
  · rintro ⟨_, ⟨host, hhost, rfl⟩, _, ⟨port, hport, rfl⟩, _, ⟨user, huser, rfl⟩,
      _, ⟨password, hpassword, rfl⟩, tenant, htenant, _, ⟨fetchSize, hfetchSize, rfl⟩,
      _, ⟨timeout, htimeout, rfl⟩, address, haddress, ⟨⟩⟩
    refine ⟨⟨host, port, user, password, tenant, fetchSize, timeout, address⟩,
      ⟨hhost, hport, huser, hpassword, htenant, hfetchSize, htimeout, haddress⟩, ?_⟩
    simp only [Layer.upon, words16, words32, words64, Option.or_none]
  · rintro ⟨keys, sets, rfl⟩
    refine ⟨_, ⟨_, sets.host, rfl⟩, _, ⟨_, sets.port, rfl⟩, _, ⟨_, sets.user, rfl⟩,
      _, ⟨_, sets.password, rfl⟩, _, sets.tenant, _, ⟨_, sets.fetchSize, rfl⟩,
      _, ⟨_, sets.connectTimeout, rfl⟩, _, sets.clientAddress, ?_⟩
    simp only [Layer.upon, words16, words32, words64, Option.or_none, Option.pure_def]

/-! ## Checks -/

/-- A connection can be made with the options. -/
structure Usable (options : Options) : Prop where
  user : options.user ≠ ""
  host : options.host ≠ ""
  fetchSize : options.fetchSize ≠ 0

/-- The first fault of options that no connection can be made with. -/
inductive Lacks (options : Options) : OptionFault → Prop
  | user (empty : options.user = "") : Lacks options .emptyUser
  | host (user : options.user ≠ "") (empty : options.host = "") : Lacks options .emptyHost
  | fetchSize (user : options.user ≠ "") (host : options.host ≠ "") (zero : options.fetchSize = 0) :
      Lacks options .zeroFetchSize

variable {options : Options} {fault : OptionFault}

/-- Options are valid if they can be used. -/
theorem validate_eq_ok_iff : options.validate = .ok () ↔ options.Usable := by
  unfold validate
  simp only [String.isEmpty_iff]
  split_ifs with user host fetchSize
  · exact iff_of_false nofun fun usable => usable.user user
  · exact iff_of_false nofun fun usable => usable.host host
  · exact iff_of_false nofun fun usable => usable.fetchSize fetchSize
  · exact iff_of_true rfl ⟨user, host, fetchSize⟩

/-- Options that are not usable are refused with their first fault. -/
theorem validate_eq_error_iff {e : Error} :
    options.validate = .error e ↔ ∃ fault, options.Lacks fault ∧ e = .options fault := by
  constructor
  · unfold validate
    simp only [String.isEmpty_iff]
    split_ifs with user host fetchSize
    · rintro ⟨⟩
      exact ⟨_, .user user, rfl⟩
    · rintro ⟨⟩
      exact ⟨_, .host user host, rfl⟩
    · rintro ⟨⟩
      exact ⟨_, .fetchSize user host fetchSize, rfl⟩
    · exact nofun
  · rintro ⟨_, empty | ⟨user, empty⟩ | ⟨user, host, zero⟩, rfl⟩
    · simp [validate, empty]
    · simp [validate, user, empty]
    · simp [validate, user, host, zero]

end Options

/-! ## Commands -/

namespace CommandLine

open Options

/-- The layer of the flags. -/
def Arguments.flags (args : Arguments) : Layer where
  host := args.host
  port := args.port
  user := args.user
  password := args.password
  tenant := args.tenant

/-- What is being done while the file of a command is read. -/
def Arguments.loading (args : Arguments) : String :=
  match args.config with
  | some path => "Failed to load " ++ path
  | none => "Failed to load default options"

/-- The keys of a file whose text is a document of the right types; without a file there are none.
-/
def Holds (file : Option OptionsFile) (keys : Layer) : Prop :=
  match file with
  | none => keys = {}
  | some file => ∃ text entries, file.text = .ok text ∧ Toml.parse? text = some entries ∧
    Sets entries keys

variable {args : Arguments} {file : Option OptionsFile} {keys : Layer} {options : Options}

theorem attempt_eq_ok_iff {α : Type} {doing : String} {x : Except Error α} {a : α} :
    attempt doing x = .ok a ↔ x = .ok a := by
  cases x <;> simp [attempt]

theorem attempt_eq_error_iff {α : Type} {doing : String} {x : Except Error α} {failure : Failure} :
    attempt doing x = .error failure ↔ ∃ e, x = .error e ∧ failure = ⟨some doing, e⟩ := by
  cases x <;> simp [attempt, eq_comm]

/-- A file with keys is read as their layer over the defaults, if that is usable on its own. -/
theorem load_of_holds {file : OptionsFile} (h : Holds (some file) keys) :
    file.load = (keys.upon {}).validate.map fun _ => keys.upon {} := by
  obtain ⟨text, entries, read, parsed, sets⟩ := h
  have made := ofEntries_eq_some_iff.2 ⟨keys, sets, rfl⟩
  simp only [OptionsFile.load, read, ofToml, parsed, Option.bind_some, made]

theorem bind_eq_ok_iff {ε α β : Type} {x : Except ε α} {f : α → Except ε β} {b : β} :
    x >>= f = .ok b ↔ ∃ a, x = .ok a ∧ f a = .ok b := by
  cases x <;> simp [bind, Except.bind]

theorem bind_eq_error_iff {ε α β : Type} {x : Except ε α} {f : α → Except ε β} {e : ε} :
    x >>= f = .error e ↔ x = .error e ∨ ∃ a, x = .ok a ∧ f a = .error e := by
  cases x <;> simp [bind, Except.bind]

/-- The options beneath the flags : those of the file, or the defaults without one. -/
def Arguments.beneath (args : Arguments) (file : Option OptionsFile) : Except Failure Options :=
  file.elim (.ok {}) fun file => attempt args.loading file.load

/-- The options of the command line are laid over those of the file, and then looked at. -/
theorem options_eq (args : Arguments) (file : Option OptionsFile) :
    args.options file = args.beneath file >>= fun base =>
      attempt "Invalid connection options" (args.flags.upon base).validate >>= fun _ =>
        .ok (args.flags.upon base) := by
  unfold Arguments.options Arguments.beneath Arguments.loading
  cases file <;> cases args.config <;> rfl

/-- The options beneath the flags are those of the file, which must be usable alone. -/
theorem beneath_eq_ok_iff (h : Holds file keys) : args.beneath file = .ok options ↔
    options = keys.upon {} ∧ (file = none ∨ (keys.upon {}).Usable) := by
  cases file with
  | none =>
    obtain rfl : keys = {} := h
    simp [Arguments.beneath, Layer.upon, eq_comm]
  | some file =>
    rw [Arguments.beneath, Option.elim_some, attempt_eq_ok_iff, load_of_holds h,
      ← validate_eq_ok_iff]
    cases (keys.upon {}).validate <;> simp [Except.map, eq_comm]

/-- Without a file there is nothing to fail, and a file fails as what it lacks. -/
theorem beneath_eq_error_iff {failure : Failure} (h : Holds file keys) :
    args.beneath file = .error failure ↔ file ≠ none ∧
      ∃ fault, (keys.upon {}).Lacks fault ∧ failure = ⟨some args.loading, .options fault⟩ := by
  cases file with
  | none => simp [Arguments.beneath]
  | some file =>
    have refused {e : Error} : file.load = .error e ↔
        ∃ fault, (keys.upon {}).Lacks fault ∧ e = .options fault := by
      rw [load_of_holds h, ← validate_eq_error_iff]
      cases (keys.upon {}).validate <;> simp [Except.map]
    rw [Arguments.beneath, Option.elim_some, attempt_eq_error_iff]
    simp only [refused]
    constructor
    · rintro ⟨_, ⟨fault, lacks, rfl⟩, rfl⟩
      exact ⟨nofun, fault, lacks, rfl⟩
    · rintro ⟨-, fault, lacks, rfl⟩
      exact ⟨_, ⟨fault, lacks, rfl⟩, rfl⟩

/-- What becomes of the options of a command whose file has these keys. -/
structure Layered (args : Arguments) (file : Option OptionsFile) (keys : Layer) : Prop where
  /-- They are the flags over the keys over the defaults. These have to be usable, and those of a
  file without the flags as well. -/
  ok_iff : ∀ options, args.options file = .ok options ↔
    (options = args.flags.upon (keys.upon {}) ∧ options.Usable) ∧
      (file = none ∨ (keys.upon {}).Usable)
  /-- Otherwise the first fault is told, and whether it is one of the file or of all layers. -/
  error_iff : ∀ failure, args.options file = .error failure ↔
    (file ≠ none ∧ ∃ fault, (keys.upon {}).Lacks fault ∧
      failure = ⟨some args.loading, .options fault⟩) ∨
    ((file = none ∨ (keys.upon {}).Usable) ∧
      ∃ fault, (args.flags.upon (keys.upon {})).Lacks fault ∧
        failure = ⟨some "Invalid connection options", .options fault⟩)

/-- Flags lie over the keys of the file and these over the defaults, whatever is set where. -/
theorem options_layered (args : Arguments) (h : Holds file keys) : Layered args file keys where
  ok_iff options := by
    simp only [options_eq, bind_eq_ok_iff, beneath_eq_ok_iff h, attempt_eq_ok_iff, Except.ok.injEq]
    constructor
    · rintro ⟨_, ⟨rfl, alone⟩, _, valid, rfl⟩
      exact ⟨⟨rfl, validate_eq_ok_iff.1 valid⟩, alone⟩
    · rintro ⟨⟨rfl, usable⟩, alone⟩
      exact ⟨_, ⟨rfl, alone⟩, (), validate_eq_ok_iff.2 usable, rfl⟩
  error_iff failure := by
    simp only [options_eq, bind_eq_error_iff, beneath_eq_error_iff h, beneath_eq_ok_iff h,
      attempt_eq_error_iff, validate_eq_error_iff]
    refine or_congr_right ?_
    constructor
    · rintro ⟨_, ⟨rfl, alone⟩, ⟨_, ⟨fault, lacks, rfl⟩, rfl⟩ | ⟨_, _, ⟨⟩⟩⟩
      exact ⟨alone, fault, lacks, rfl⟩
    · rintro ⟨alone, fault, lacks, rfl⟩
      exact ⟨_, ⟨rfl, alone⟩, .inl ⟨_, ⟨fault, lacks, rfl⟩, rfl⟩⟩

/-- An empty file is refused for want of a user, also if a flag gives one and all layers together
are usable. -/
theorem options_layered_userless :
    let args : Arguments := ⟨some "native.toml", none, none, some "app", none, none, .ping⟩
    let file : OptionsFile := ⟨"native.toml", .ok ""⟩
    let keys : Layer := {}
    Holds (some file) keys ∧ Layered args (some file) keys ∧
      (args.flags.upon (keys.upon {})).Usable ∧
      args.options (some file) =
        .error ⟨some "Failed to load native.toml", .options .emptyUser⟩ := by
  intro args file keys
  have holds : Holds (some file) keys :=
    ⟨_, [], rfl, Toml.parse?_empty, ⟨rfl, rfl, rfl, rfl, rfl, rfl, rfl, rfl⟩⟩
  have layered := options_layered args holds
  have usable : (args.flags.upon (keys.upon {})).Usable := ⟨by decide, by decide, by decide⟩
  refine ⟨holds, layered, usable, (layered.error_iff _).2 (.inl ⟨nofun, .emptyUser, ?_, rfl⟩)⟩
  exact .user rfl

end CommandLine

end SqlWire
