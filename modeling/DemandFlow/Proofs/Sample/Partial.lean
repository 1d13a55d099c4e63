import DemandFlow.Proofs.Sample.Stored

/-!
Contract: scripts that give some of the settings.

Owns: what a script can tell of settings, in any order and spelling and with anything unknown in
between, the settings that are chosen by telling some, and scripts that give a field twice.

Main statement: from a script that tells some of the settings these are read, and the defaults of
all others, at the top and in every section, unless the version that comes of it is too new; and a
script that gives a known field twice is malformed, whatever else it gives
(`Settings.read_partial`).

Does not own: the script that settings are written as (`Proofs.Sample.Stored`).
-/

namespace DemandFlow.Script.Term

/-- The fields of a record. -/
def fields : Term → List (String × Term)
  | .record _ fields => fields
  | _ => []

/-- What becomes of the field of a name, or the fallback if the term has none. -/
def pick {Content : Type} (term : Term) (key : String) (fallback : Content)
    (chosen : Term → Content) : Content :=
  (term.fields.lookup key).elim fallback chosen

end DemandFlow.Script.Term

namespace DemandFlow.Sample

open Script

/-! ### Contents -/

/-- What a script can tell of settings. -/
inductive Content where
  | integer (kind : IntegerKind) (value : FixedInt kind)
  | float (kind : FloatKind) (value : Binary kind.format)
  | truth (value : Bool)
  | text (value : String)
  | record (name : String) (fields : List (String × Content))

/-- A term tells a content: a word tells the value that it spells, and a record tells some of the
fields, each once at most and each by a term that tells it. Fields of other names tell nothing. A
record bears its name, or none where names are not required. -/
inductive Tells (namesRequired : Bool) : Term → Content → Prop where
  | integer {kind : IntegerKind} {value : FixedInt kind} {term : Term}
      (spells : readInteger kind term = some value) : Tells namesRequired term (.integer kind value)
  | float {kind : FloatKind} {value : Binary kind.format} {term : Term}
      (spells : readFloat kind term = some value) : Tells namesRequired term (.float kind value)
  | truth (value : Bool) : Tells namesRequired (boolTerm value) (.truth value)
  | text (value : String) : Tells namesRequired (.text value) (.text value)
  | record {heading : Option String} {name : String} {given : List (String × Term)}
      {full : List (String × Content)}
      (bears : heading = some name ∨ heading = none ∧ namesRequired = false)
      (once : ∀ field ∈ full, (given.map Prod.fst).count field.1 ≤ 1)
      (each : ∀ field ∈ full, ∀ term, (field.1, term) ∈ given → Tells namesRequired term field.2) :
      Tells namesRequired (.record heading given) (.record name full)

/-- A term gives a field twice that the content knows, at the top or within such a field. -/
inductive Repeats : Term → Content → Prop where
  | here {heading : Option String} {name key : String} {given : List (String × Term)}
      {full : List (String × Content)} (known : key ∈ full.map Prod.fst)
      (twice : 2 ≤ (given.map Prod.fst).count key) :
      Repeats (.record heading given) (.record name full)
  | within {heading : Option String} {name key : String} {given : List (String × Term)}
      {full : List (String × Content)} {term : Term} {content : Content}
      (known : (key, content) ∈ full) (field : (key, term) ∈ given)
      (repeats : Repeats term content) : Repeats (.record heading given) (.record name full)

/-- A term has some of the fields of a term, each once at most and as they are written there, in any
order, and whatever else under other names. -/
inductive Selects (namesRequired : Bool) : Term → Term → Prop where
  | word (spelling : String) : Selects namesRequired (.word spelling) (.word spelling)
  | text (value : String) : Selects namesRequired (.text value) (.text value)
  | record {heading : Option String} {name : String} {given full : List (String × Term)}
      (bears : heading = some name ∨ heading = none ∧ namesRequired = false)
      (once : ∀ field ∈ full, (given.map Prod.fst).count field.1 ≤ 1)
      (each : ∀ field ∈ full, ∀ term, (field.1, term) ∈ given →
        Selects namesRequired term field.2) :
      Selects namesRequired (.record heading given) (.record (some name) full)

namespace Content

mutual

/-- The term that a content is written as. -/
def toTerm : Content → Term
  | .integer _ value => integerTerm value
  | .float _ value => floatTerm value
  | .truth value => boolTerm value
  | .text value => .text value
  | .record name fields => .record (some name) (toTerms fields)

def toTerms : List (String × Content) → List (String × Term)
  | [] => []
  | (key, content) :: rest => (key, toTerm content) :: toTerms rest

end

/-- Every floating-point number in a content is read back from the word it is written as. -/
inductive Canonical : Content → Prop where
  | integer {kind : IntegerKind} (value : FixedInt kind) : Canonical (.integer kind value)
  | float {kind : FloatKind} {value : Binary kind.format} (canonical : value.Canonical) :
      Canonical (.float kind value)
  | truth (value : Bool) : Canonical (.truth value)
  | text (value : String) : Canonical (.text value)
  | record {name : String} {fields : List (String × Content)}
      (each : ∀ field ∈ fields, Canonical field.2) : Canonical (.record name fields)

theorem mem_toTerms {fields : List (String × Content)} {field : String × Content}
    (member : field ∈ fields) : (field.1, field.2.toTerm) ∈ toTerms fields := by
  induction fields with
  | nil => cases member
  | cons first rest inductionHypothesis =>
      rcases List.mem_cons.mp member with rfl | later
      · exact List.mem_cons_self
      · exact List.mem_cons_of_mem _ (inductionHypothesis later)

end Content

/-- A selection from the written form of a content tells the content. -/
theorem Selects.tells {namesRequired : Bool} {term full : Term}
    (selects : Selects namesRequired term full) {content : Content}
    (canonical : content.Canonical) (written : full = content.toTerm) :
    Tells namesRequired term content := by
  induction selects generalizing content with
  | word spelling =>
      cases canonical with
      | integer value =>
          rw [written]
          exact .integer (readInteger_integerTerm value)
      | float canonical =>
          rw [written]
          exact .float (readFloat_floatTerm canonical)
      | truth value =>
          rw [written]
          exact .truth value
      | text value => cases written
      | record each => cases written
  | text value =>
      cases canonical with
      | text other =>
          cases written
          exact .text value
      | _ => cases written
  | record bears once each inductionHypothesis =>
      cases canonical with
      | record canonical =>
          cases written
          refine .record bears (fun field listed => once _ (Content.mem_toTerms listed)) ?_
          intro field listed term member
          exact inductionHypothesis _ (Content.mem_toTerms listed) term member
            (canonical field listed) rfl
      | _ => cases written

/-! ### One field -/

section Fields

variable {namesRequired : Bool} {term : Term} {name key : String} {full : List (String × Content)}
  {content : Content} {Setting : Type} {read : Term → Option Setting}

theorem fieldsOf_eq_some {given : List (String × Term)}
    (found : fieldsOf namesRequired name term = some given) : given = term.fields := by
  unfold fieldsOf at found
  split at found
  · split at found
    · exact (Option.some.inj found).symm
    · cases found
  · split at found
    · cases found
    · exact (Option.some.inj found).symm
  · cases found

theorem lookup_eq_head?_filter (given : List (String × Term)) (key : String) :
    given.lookup key = (given.filter fun field => field.1 == key).head?.map Prod.snd := by
  induction given with
  | nil => rfl
  | cons first rest inductionHypothesis =>
      obtain ⟨other, term⟩ := first
      by_cases same : other = key
      · simp [same]
      · have differs : (key == other) = false := by simpa using fun equal => same equal.symm
        rw [List.lookup_cons, differs, List.filter_cons_of_neg (by simpa using same)]
        exact inductionHypothesis

theorem count_keys (given : List (String × Term)) (key : String) :
    (given.map Prod.fst).count key = (given.filter fun field => field.1 == key).length := by
  rw [List.count, List.countP_map, List.countP_eq_length_filter]
  rfl

/-- A setting is the fallback, or what is read from the one field of its name. -/
theorem setting_eq_pick (once : (term.fields.map Prod.fst).count key ≤ 1)
    {chosen : Term → Setting}
    (reads : ∀ given, (key, given) ∈ term.fields → read given = some (chosen given))
    (fallback : Setting) :
    setting term.fields key fallback read = some (term.pick key fallback chosen) := by
  rw [count_keys] at once
  unfold setting Term.pick
  rw [lookup_eq_head?_filter]
  cases found : term.fields.filter fun field => field.1 == key with
  | nil => rfl
  | cons first rest =>
      rw [found, List.length_cons] at once
      obtain rfl := List.length_eq_zero_iff.mp (Nat.le_zero.mp (Nat.le_of_succ_le_succ once))
      have member : first ∈ term.fields.filter fun field => field.1 == key := by
        rw [found]
        exact List.mem_cons_self
      obtain ⟨listed, named⟩ := List.mem_filter.mp member
      obtain ⟨other, given⟩ := first
      obtain rfl : other = key := by simpa using named
      exact reads given listed

/-- What is a setting is given once at most, and read from wherever it is given. -/
theorem setting_eq_some {fallback setting : Setting}
    (found : Sample.setting term.fields key fallback read = some setting) :
    (term.fields.map Prod.fst).count key ≤ 1 ∧
      ∀ given, (key, given) ∈ term.fields → read given = some setting := by
  have listed (given : Term) (member : (key, given) ∈ term.fields) :
      (key, given) ∈ term.fields.filter fun field => field.1 == key :=
    List.mem_filter.mpr ⟨member, beq_self_eq_true key⟩
  rw [count_keys]
  unfold Sample.setting at found
  split at found
  · rename_i none
    rw [none] at listed ⊢
    exact ⟨Nat.zero_le 1, fun given member => absurd (listed given member) List.not_mem_nil⟩
  · rename_i other only single
    rw [single] at listed ⊢
    refine ⟨Nat.le_refl 1, fun given member => ?_⟩
    cases List.mem_singleton.mp (listed given member)
    exact found
  · cases found

theorem bind_of_some {Result : Type} {first : Option Setting} {found : Setting}
    {next : Setting → Option Result} {result : Result} (isFound : first = some found)
    (onward : next found = some result) : first.bind next = some result :=
  Option.bind_eq_some_iff.mpr ⟨found, isFound, onward⟩

theorem Tells.fieldsOf (tells : Tells namesRequired term (.record name full)) :
    fieldsOf namesRequired name term = some term.fields := by
  cases tells with
  | record bears once each =>
      rcases bears with rfl | ⟨rfl, rfl⟩
      · simp [Sample.fieldsOf, Term.fields]
      · simp [Sample.fieldsOf, Term.fields]

theorem Tells.setting (tells : Tells namesRequired term (.record name full)) (place : Nat)
    (known : full[place]? = some (key, content)) {chosen : Term → Setting}
    (reads : ∀ given, Tells namesRequired given content → read given = some (chosen given))
    (fallback : Setting) :
    setting term.fields key fallback read = some (term.pick key fallback chosen) := by
  have listed : (key, content) ∈ full := List.mem_of_getElem? known
  cases tells with
  | record bears once each =>
      exact setting_eq_pick (once _ listed)
        (fun given member => reads given (each _ listed given member)) fallback

theorem Tells.readInteger {kind : IntegerKind} {value : FixedInt kind}
    (tells : Tells namesRequired term (.integer kind value)) :
    readInteger kind term = some value := by
  cases tells with
  | integer spells => exact spells

theorem Tells.readFloat {kind : FloatKind} {value : Binary kind.format}
    (tells : Tells namesRequired term (.float kind value)) : readFloat kind term = some value := by
  cases tells with
  | float spells => exact spells

theorem Tells.readBool {value : Bool} (tells : Tells namesRequired term (.truth value)) :
    readBool term = some value := by
  cases tells with
  | truth => exact readBool_boolTerm value

theorem Tells.readText {value : String} (tells : Tells namesRequired term (.text value)) :
    readText term = some value := by
  cases tells with
  | text => rfl

/-- A setting that is found has a field that repeats nothing, if what repeats is not read. -/
theorem not_repeats_of_setting {fallback setting : Setting}
    (found : Sample.setting term.fields key fallback read = some setting)
    (refuses : ∀ given, Repeats given content → read given = none) :
    (term.fields.map Prod.fst).count key ≤ 1 ∧
      ∀ given, (key, given) ∈ term.fields → ¬ Repeats given content := by
  obtain ⟨once, reads⟩ := setting_eq_some found
  refine ⟨once, fun given member repeats => ?_⟩
  have refused := refuses given repeats
  rw [reads given member] at refused
  cases refused

/-- Where all that is known of the fields is given once at most and repeats nothing within, no record
that repeats a field is read. -/
theorem bind_fieldsOf_of_repeats {next : List (String × Term) → Option Setting}
    (sound : ∀ setting, next term.fields = some setting →
      ∀ field ∈ full, (term.fields.map Prod.fst).count field.1 ≤ 1 ∧
        ∀ given, (field.1, given) ∈ term.fields → ¬ Repeats given field.2)
    (repeats : Repeats term (.record name full)) :
    (fieldsOf namesRequired name term).bind next = none := by
  refine Option.eq_none_iff_forall_ne_some.mpr fun setting read => ?_
  obtain ⟨fields, found, read⟩ := Option.bind_eq_some_iff.mp read
  obtain rfl := fieldsOf_eq_some found
  cases repeats with
  | here known twice =>
      obtain ⟨field, listed, rfl⟩ := List.mem_map.mp known
      exact absurd twice (Nat.not_le_of_lt (Nat.lt_succ_of_le (sound setting read field listed).1))
  | within known field repeats => exact (sound setting read _ known).2 _ field repeats

end Fields

/-! ### Sections -/

namespace AddSettings

def content (settings : AddSettings) : Content :=
  .record "AddScenario" [("x", .integer .i32 settings.x), ("y", .integer .i32 settings.y)]

/-- The settings whose fields a term has, and the defaults of all others. -/
def chosen (settings : AddSettings) (term : Term) : AddSettings where
  x := term.pick "x" Settings.standard.add.x fun _ => settings.x
  y := term.pick "y" Settings.standard.add.y fun _ => settings.y

variable {settings : AddSettings} {namesRequired : Bool} {term : Term}

theorem ofTerm?_of_tells (tells : Tells namesRequired term settings.content) :
    ofTerm? namesRequired term = some (settings.chosen term) := by
  have x := tells.setting 0 rfl (fun _ told => told.readInteger) Settings.standard.add.x
  have y := tells.setting 1 rfl (fun _ told => told.readInteger) Settings.standard.add.y
  exact bind_of_some tells.fieldsOf (bind_of_some x (bind_of_some y rfl))

theorem ofTerm?_of_repeats (repeats : Repeats term settings.content) :
    ofTerm? namesRequired term = none := by
  refine bind_fieldsOf_of_repeats (fun settings read => ?_) repeats
  obtain ⟨x, foundX, read⟩ := Option.bind_eq_some_iff.mp read
  obtain ⟨y, foundY, -⟩ := Option.bind_eq_some_iff.mp read
  simp only [List.forall_mem_cons]
  exact ⟨not_repeats_of_setting foundX nofun, not_repeats_of_setting foundY nofun, nofun⟩

end AddSettings

namespace SelectorSettings

def content (settings : SelectorSettings) : Content :=
  .record "SelectorScenario"
    [("control", .truth settings.control), ("x", .float .double settings.x),
      ("y", .float .double settings.y)]

/-- The settings whose fields a term has, and the defaults of all others. -/
def chosen (settings : SelectorSettings) (term : Term) : SelectorSettings where
  control := term.pick "control" Settings.standard.selector.control fun _ => settings.control
  x := term.pick "x" Settings.standard.selector.x fun _ => settings.x
  y := term.pick "y" Settings.standard.selector.y fun _ => settings.y

variable {settings : SelectorSettings} {namesRequired : Bool} {term : Term}

theorem ofTerm?_of_tells (tells : Tells namesRequired term settings.content) :
    ofTerm? namesRequired term = some (settings.chosen term) := by
  have control := tells.setting 0 rfl (fun _ told => told.readBool)
    Settings.standard.selector.control
  have x := tells.setting 1 rfl (fun _ told => told.readFloat) Settings.standard.selector.x
  have y := tells.setting 2 rfl (fun _ told => told.readFloat) Settings.standard.selector.y
  exact bind_of_some tells.fieldsOf (bind_of_some control (bind_of_some x (bind_of_some y rfl)))

theorem ofTerm?_of_repeats (repeats : Repeats term settings.content) :
    ofTerm? namesRequired term = none := by
  refine bind_fieldsOf_of_repeats (fun settings read => ?_) repeats
  obtain ⟨control, foundControl, read⟩ := Option.bind_eq_some_iff.mp read
  obtain ⟨x, foundX, read⟩ := Option.bind_eq_some_iff.mp read
  obtain ⟨y, foundY, -⟩ := Option.bind_eq_some_iff.mp read
  simp only [List.forall_mem_cons]
  exact ⟨not_repeats_of_setting foundControl nofun, not_repeats_of_setting foundX nofun,
    not_repeats_of_setting foundY nofun, nofun⟩

end SelectorSettings

namespace CastChainSettings

def content (settings : CastChainSettings) : Content :=
  .record "CastChainScenario"
    [("input", .float .single settings.input), ("offset", .integer .i32 settings.offset),
      ("divisor", .float .single settings.divisor)]

/-- The settings whose fields a term has, and the defaults of all others. -/
def chosen (settings : CastChainSettings) (term : Term) : CastChainSettings where
  input := term.pick "input" Settings.standard.castChain.input fun _ => settings.input
  offset := term.pick "offset" Settings.standard.castChain.offset fun _ => settings.offset
  divisor := term.pick "divisor" Settings.standard.castChain.divisor fun _ => settings.divisor

variable {settings : CastChainSettings} {namesRequired : Bool} {term : Term}

theorem ofTerm?_of_tells (tells : Tells namesRequired term settings.content) :
    ofTerm? namesRequired term = some (settings.chosen term) := by
  have input := tells.setting 0 rfl (fun _ told => told.readFloat)
    Settings.standard.castChain.input
  have offset := tells.setting 1 rfl (fun _ told => told.readInteger)
    Settings.standard.castChain.offset
  have divisor := tells.setting 2 rfl (fun _ told => told.readFloat)
    Settings.standard.castChain.divisor
  exact bind_of_some tells.fieldsOf
    (bind_of_some input (bind_of_some offset (bind_of_some divisor rfl)))

theorem ofTerm?_of_repeats (repeats : Repeats term settings.content) :
    ofTerm? namesRequired term = none := by
  refine bind_fieldsOf_of_repeats (fun settings read => ?_) repeats
  obtain ⟨input, foundInput, read⟩ := Option.bind_eq_some_iff.mp read
  obtain ⟨offset, foundOffset, read⟩ := Option.bind_eq_some_iff.mp read
  obtain ⟨divisor, foundDivisor, -⟩ := Option.bind_eq_some_iff.mp read
  simp only [List.forall_mem_cons]
  exact ⟨not_repeats_of_setting foundInput nofun, not_repeats_of_setting foundOffset nofun,
    not_repeats_of_setting foundDivisor nofun, nofun⟩

end CastChainSettings

namespace DiamondSettings

def content (settings : DiamondSettings) : Content :=
  .record "DiamondScenario" [("shared", .integer .i64 settings.shared)]

/-- The settings whose fields a term has, and the defaults of all others. -/
def chosen (settings : DiamondSettings) (term : Term) : DiamondSettings where
  shared := term.pick "shared" Settings.standard.diamond.shared fun _ => settings.shared

variable {settings : DiamondSettings} {namesRequired : Bool} {term : Term}

theorem ofTerm?_of_tells (tells : Tells namesRequired term settings.content) :
    ofTerm? namesRequired term = some (settings.chosen term) := by
  have shared := tells.setting 0 rfl (fun _ told => told.readInteger)
    Settings.standard.diamond.shared
  exact bind_of_some tells.fieldsOf (bind_of_some shared rfl)

theorem ofTerm?_of_repeats (repeats : Repeats term settings.content) :
    ofTerm? namesRequired term = none := by
  refine bind_fieldsOf_of_repeats (fun settings read => ?_) repeats
  obtain ⟨shared, foundShared, -⟩ := Option.bind_eq_some_iff.mp read
  simp only [List.forall_mem_cons]
  exact ⟨not_repeats_of_setting foundShared nofun, nofun⟩

end DiamondSettings

/-! ### Settings -/

namespace Settings

def content (settings : Settings) : Content :=
  .record "DemoConfig"
    [("version", .integer .u32 settings.version), ("log_filter", .text settings.logFilter),
      ("memoize", .truth settings.memoize), ("add", settings.add.content),
      ("selector", settings.selector.content), ("cast_chain", settings.castChain.content),
      ("diamond", settings.diamond.content)]

/-- The settings whose fields a term has, and the defaults of all others. Of a section that the term
has, the same holds within. -/
def chosen (settings : Settings) (term : Term) : Settings where
  version := term.pick "version" standard.version fun _ => settings.version
  logFilter := term.pick "log_filter" standard.logFilter fun _ => settings.logFilter
  memoize := term.pick "memoize" standard.memoize fun _ => settings.memoize
  add := term.pick "add" standard.add settings.add.chosen
  selector := term.pick "selector" standard.selector settings.selector.chosen
  castChain := term.pick "cast_chain" standard.castChain settings.castChain.chosen
  diamond := term.pick "diamond" standard.diamond settings.diamond.chosen

variable {settings : Settings} {namesRequired : Bool} {term : Term}

theorem ofTerm?_of_tells (tells : Tells namesRequired term settings.content) :
    ofTerm? namesRequired term = some (settings.chosen term) := by
  have version := tells.setting 0 rfl (fun _ told => told.readInteger) standard.version
  have logFilter := tells.setting 1 rfl (fun _ told => told.readText) standard.logFilter
  have memoize := tells.setting 2 rfl (fun _ told => told.readBool) standard.memoize
  have add := tells.setting 3 rfl (fun _ told => AddSettings.ofTerm?_of_tells told) standard.add
  have selector := tells.setting 4 rfl (fun _ told => SelectorSettings.ofTerm?_of_tells told)
    standard.selector
  have castChain := tells.setting 5 rfl (fun _ told => CastChainSettings.ofTerm?_of_tells told)
    standard.castChain
  have diamond := tells.setting 6 rfl (fun _ told => DiamondSettings.ofTerm?_of_tells told)
    standard.diamond
  exact bind_of_some tells.fieldsOf <| bind_of_some version <| bind_of_some logFilter <|
    bind_of_some memoize <| bind_of_some add <| bind_of_some selector <|
    bind_of_some castChain <| bind_of_some diamond rfl

theorem ofTerm?_of_repeats (repeats : Repeats term settings.content) :
    ofTerm? namesRequired term = none := by
  refine bind_fieldsOf_of_repeats (fun settings read => ?_) repeats
  obtain ⟨version, foundVersion, read⟩ := Option.bind_eq_some_iff.mp read
  obtain ⟨logFilter, foundLogFilter, read⟩ := Option.bind_eq_some_iff.mp read
  obtain ⟨memoize, foundMemoize, read⟩ := Option.bind_eq_some_iff.mp read
  obtain ⟨add, foundAdd, read⟩ := Option.bind_eq_some_iff.mp read
  obtain ⟨selector, foundSelector, read⟩ := Option.bind_eq_some_iff.mp read
  obtain ⟨castChain, foundCastChain, read⟩ := Option.bind_eq_some_iff.mp read
  obtain ⟨diamond, foundDiamond, -⟩ := Option.bind_eq_some_iff.mp read
  simp only [List.forall_mem_cons]
  exact ⟨not_repeats_of_setting foundVersion nofun, not_repeats_of_setting foundLogFilter nofun,
    not_repeats_of_setting foundMemoize nofun,
    not_repeats_of_setting foundAdd fun _ => AddSettings.ofTerm?_of_repeats,
    not_repeats_of_setting foundSelector fun _ => SelectorSettings.ofTerm?_of_repeats,
    not_repeats_of_setting foundCastChain fun _ => CastChainSettings.ofTerm?_of_repeats,
    not_repeats_of_setting foundDiamond fun _ => DiamondSettings.ofTerm?_of_repeats, nofun⟩

theorem toTerm_content (settings : Settings) : settings.content.toTerm = settings.toTerm := rfl

theorem Numeric.canonical_content (numeric : settings.Numeric) : settings.content.Canonical := by
  have canonical := numeric.canonical
  refine .record ?_
  simp only [List.forall_mem_cons]
  refine ⟨.integer _, .text _, .truth _, ?_, ?_, ?_, ?_, nofun⟩
  · refine .record ?_
    simp only [List.forall_mem_cons]
    exact ⟨.integer _, .integer _, nofun⟩
  · refine .record ?_
    simp only [List.forall_mem_cons]
    exact ⟨.truth _, .float canonical.selector.x, .float canonical.selector.y, nofun⟩
  · refine .record ?_
    simp only [List.forall_mem_cons]
    exact ⟨.float canonical.castChain.input, .integer _, .float canonical.castChain.divisor, nofun⟩
  · refine .record ?_
    simp only [List.forall_mem_cons]
    exact ⟨.integer _, nofun⟩

theorem read_of_tells {text : String} {source : Source} (script : Source.read? text = some source)
    (tells : Tells source.namesRequired source.body settings.content) :
    read text =
      if (settings.chosen source.body).version.value ≤ currentVersion then
        .ok (settings.chosen source.body)
      else .error (.unsupportedVersion (settings.chosen source.body).version) := by
  unfold read
  rw [script, Option.bind_some, ofTerm?_of_tells tells]

/-- From a text that tells some of the settings these are read, and the defaults of all others,
unless the version that comes of it is newer than the newest one known; to give some of the fields
that the settings are written as, in any order and with others of unknown names in between, is to
tell them, and whatever is given so and can be written down is read from the text that it is written
as; and a text that gives a known field twice is malformed, whatever its version. -/
theorem read_partial (settings : Settings) :
    (∀ text source, Source.read? text = some source →
      Tells source.namesRequired source.body settings.content →
        read text =
          if (settings.chosen source.body).version.value ≤ currentVersion then
            .ok (settings.chosen source.body)
          else .error (.unsupportedVersion (settings.chosen source.body).version)) ∧
    (settings.Numeric → ∀ namesRequired part, Selects namesRequired part settings.toTerm →
      Tells namesRequired part settings.content) ∧
    (settings.Numeric → ∀ part, Selects false part settings.toTerm →
      Written Reader.levelLimit part →
        read (String.ofList (part.pretty 0)) =
          if (settings.chosen part).version.value ≤ currentVersion then
            .ok (settings.chosen part)
          else .error (.unsupportedVersion (settings.chosen part).version)) ∧
    ∀ text source, Source.read? text = some source → Repeats source.body settings.content →
      read text = .error .malformed := by
  refine ⟨fun _ _ => read_of_tells, ?_, ?_, ?_⟩
  · intro numeric namesRequired part selects
    exact selects.tells numeric.canonical_content settings.toTerm_content.symm
  · intro numeric part selects written
    have tells := selects.tells numeric.canonical_content settings.toTerm_content.symm
    exact read_of_tells (Source.read?_pretty written) tells
  · intro text source script repeats
    unfold read
    rw [script, Option.bind_some, ofTerm?_of_repeats repeats]

/-- Settings of which a script gives two fields, one of them in a section. -/
def louder : Settings :=
  { standard with
    logFilter := "trace"
    memoize := true
    diamond := ⟨⟨9, by decide, by decide⟩⟩ }

theorem read_partial_louder :
    read "(later: [1], diamond: (spare: (), shared: 9), memoize: true)" =
        .ok { memoize := true, diamond := ⟨⟨9, by decide, by decide⟩⟩ } ∧
      read "(\n    memoize: true,\n)" = .ok { memoize := true } ∧
      read "(memoize: true, version: 99, memoize: true)" = .error .malformed := by
  obtain ⟨chosen, told, written, malformed⟩ := read_partial louder
  have numeric : louder.Numeric :=
    ⟨by decide +kernel, by decide +kernel, by decide +kernel, by decide +kernel⟩
  refine ⟨?_, ?_, ?_⟩
  · let diamond : Term := .record none [("spare", .record none []), ("shared", .word "9")]
    let part : Term :=
      .record none [("later", .foreign), ("diamond", diamond), ("memoize", .word "true")]
    have script : Source.read? "(later: [1], diamond: (spare: (), shared: 9), memoize: true)" =
        some ⟨[], part⟩ := by with_unfolding_all rfl
    have selectsDiamond : Selects false diamond louder.diamond.toTerm := by
      refine .record (Or.inr ⟨rfl, rfl⟩) (by decide +kernel) ?_
      intro field listed term member
      obtain rfl := List.mem_singleton.mp listed
      have same : term = .word "9" := by simpa using member
      rw [same]
      exact .word "9"
    have selects : Selects false part louder.toTerm := by
      refine .record (Or.inr ⟨rfl, rfl⟩) (by decide +kernel) ?_
      intro field listed term member
      have given : term = .foreign ∧ field.1 = "later" ∨ term = diamond ∧ field.1 = "diamond" ∨
          term = .word "true" ∧ field.1 = "memoize" := by
        simpa [and_comm] using member
      simp only [List.mem_cons, List.not_mem_nil, or_false] at listed
      rcases listed with rfl | rfl | rfl | rfl | rfl | rfl | rfl <;> simp at given
      · rw [given]
        exact .word "true"
      · rw [given]
        exact selectsDiamond
    exact chosen _ _ script (told numeric _ _ selects)
  · let part : Term := .record none [("memoize", .word "true")]
    have selects : Selects false part louder.toTerm := by
      refine .record (Or.inr ⟨rfl, rfl⟩) (by decide +kernel) ?_
      intro field listed term member
      obtain ⟨named, isTrue⟩ := Prod.mk.inj (List.mem_singleton.mp member)
      simp only [List.mem_cons, List.not_mem_nil, or_false] at listed
      rcases listed with rfl | rfl | rfl | rfl | rfl | rfl | rfl <;> simp at named
      rw [isTrue]
      exact .word "true"
    have holds : Written Reader.levelLimit part := by
      refine .record nofun ?_ ?_
      · simp only [List.forall_mem_cons]
        decide +kernel
      · simp only [List.forall_mem_cons]
        exact ⟨written_bool true, nofun⟩
    have text : String.ofList (part.pretty 0) = "(\n    memoize: true,\n)" := by decide +kernel
    rw [← text]
    exact written numeric part selects holds
  · have script : Source.read? "(memoize: true, version: 99, memoize: true)" =
        some ⟨[], .record none [("memoize", .word "true"), ("version", .word "99"),
          ("memoize", .word "true")]⟩ := by with_unfolding_all rfl
    have known : "memoize" ∈ ["version", "log_filter", "memoize", "add", "selector", "cast_chain",
        "diamond"] := by decide
    exact malformed _ _ script (.here known (by decide))

end Settings

end DemandFlow.Sample
