import DoubleDispatch.Proofs.Catalog.Operations
import DoubleDispatch.Proofs.Text.Characters

/-! Which rows can be operations, and what is said of one that cannot. A row goes through its checks
one by one and the first that refuses it speaks; what passes them all is kept as it was written. -/
namespace DoubleDispatch.Catalog
open Text (Spelled Compact spelledIff spelledSome compactIff)

/- What a payload has to be like, once it is there. -/
def PayloadField.Admits : PayloadField → String → Prop
  | .symbol, text => Compact text
  | .function, text => Spelled text

def PayloadField.defect : PayloadField → Defect
  | .symbol => .holdsBlank
  | .function => .notIdentifier

def Kind.payload (kind : Kind) : PayloadField → Option String
  | .symbol => kind.symbol?
  | .function => kind.function?

def spellingDefect (text : String) : Defect := if text = "" then .empty else .notIdentifier

inductive Check where
  | name
  | enumName
  | difference
  | stray (field : PayloadField)
  | presence
  | form
  deriving DecidableEq, Repr

namespace Check

def order : List Check :=
  [.name, .enumName, .difference, .stray .symbol, .stray .function, .presence, .form]

/- The checks that stand before this one. -/
def earlier (check : Check) : List Check := order.takeWhile (· ≠ check)

theorem ordered (check : Check) : check ∈ order := by
  cases check with
  | stray field => cases field <;> decide
  | _ => decide

theorem earlierOrLater (a b : Check) : a = b ∨ a ∈ b.earlier ∨ b ∈ a.earlier :=
  (by decide : ∀ a ∈ order, ∀ b ∈ order, a = b ∨ a ∈ b.earlier ∨ b ∈ a.earlier) a a.ordered b
    b.ordered

end Check

namespace Row

structure Acceptable (row : Row) : Prop where
  name : Spelled row.name
  enumName : Spelled row.resolvedEnumName
  difference : row.resolvedEnumName ≠ row.name
  foreign : ∀ field, row.category.payloadField ≠ some field → row.payload field = none
  own : ∀ field, row.category.payloadField = some field →
    ∃ text, row.payload field = some text ∧ text ≠ "" ∧ field.Admits text

/- What a check says about a row that it refuses. -/
inductive Refused (row : Row) : Check → Error → Prop where
  | name (bad : ¬ Spelled row.name) :
      Refused row .name (.invalidIdentifier row.name .name row.name (spellingDefect row.name))
  | enumName (bad : ¬ Spelled row.resolvedEnumName) :
      Refused row .enumName (.invalidIdentifier row.name .enumName row.resolvedEnumName
        (spellingDefect row.resolvedEnumName))
  | difference (same : row.resolvedEnumName = row.name) :
      Refused row .difference (.enumNameEqualsName row.name)
  | stray {field : PayloadField} (given : row.payload field ≠ none)
      (foreign : row.category.payloadField ≠ some field) :
      Refused row (.stray field) (.unexpectedField row.name row.category field)
  | presence {field : PayloadField} (own : row.category.payloadField = some field)
      (absent : row.payload field = none ∨ row.payload field = some "") :
      Refused row .presence (.missingField row.name row.category field)
  | form {field : PayloadField} {text : String} (own : row.category.payloadField = some field)
      (given : row.payload field = some text) (bad : ¬ field.Admits text) :
      Refused row .form (.invalidIdentifier row.name (.payload field) text field.defect)

def Passes (row : Row) (checks : List Check) : Prop :=
  ∀ check ∈ checks, ∀ error, ¬ row.Refused check error

structure FirstRefused (row : Row) (check : Check) (error : Error) : Prop where
  refused : row.Refused check error
  passed : row.Passes check.earlier

/- The operation says what the row says. -/
structure Reads (row : Row) (op : Operation) : Prop where
  name : op.name.text = row.name
  enumName : op.enumName.text = row.resolvedEnumName
  category : op.category = row.category
  payload : ∀ field, op.kind.payload field = row.payload field

variable {row : Row} {check : Check} {error : Error} {field : PayloadField} {op : Operation}

theorem Refused.unique {other : Error} (first : row.Refused check error)
    (second : row.Refused check other) : error = other := by
  cases first with
  | name | enumName | difference | stray => cases second; rfl
  | presence own =>
    cases second with
    | presence other => rw [Option.some.inj (own.symm.trans other)]
  | form own given =>
    cases second with
    | form other text =>
      cases Option.some.inj (own.symm.trans other)
      rw [Option.some.inj (given.symm.trans text)]

theorem FirstRefused.unique {other : Check} {cause : Error} (first : row.FirstRefused check error)
    (second : row.FirstRefused other cause) : check = other ∧ error = cause := by
  rcases Check.earlierOrLater check other with rfl | before | after
  · exact ⟨rfl, first.refused.unique second.refused⟩
  · exact absurd first.refused (second.passed check before error)
  · exact absurd second.refused (first.passed other after cause)

theorem Passes.next {checks : List Check} (passes : row.Passes checks)
    (fits : ∀ error, ¬ row.Refused check error) : row.Passes (checks ++ [check]) := by
  intro other member
  rcases List.mem_append.mp member with before | last
  · exact passes other before
  · rw [List.mem_singleton.mp last]
    exact fits

theorem fitsName (spelled : Spelled row.name) (error : Error) : ¬ row.Refused .name error := by
  intro refused
  cases refused with
  | name bad => exact bad spelled

theorem fitsEnumName (spelled : Spelled row.resolvedEnumName) (error : Error) :
    ¬ row.Refused .enumName error := by
  intro refused
  cases refused with
  | enumName bad => exact bad spelled

theorem fitsDifference (differ : row.resolvedEnumName ≠ row.name) (error : Error) :
    ¬ row.Refused .difference error := by
  intro refused
  cases refused with
  | difference same => exact differ same

theorem Acceptable.passes (fine : row.Acceptable) : ¬ row.Refused check error := by
  intro refused
  cases refused with
  | name bad => exact bad fine.name
  | enumName bad => exact bad fine.enumName
  | difference same => exact fine.difference same
  | stray given foreign => exact given (fine.foreign _ foreign)
  | presence own absent =>
    obtain ⟨text, given, some_, _⟩ := fine.own _ own
    rcases absent with none | empty
    · rw [none] at given
      contradiction
    · rw [empty] at given
      exact some_ (Option.some.inj given).symm
  | form own given bad =>
    obtain ⟨text, found, _, admitted⟩ := fine.own _ own
    rw [given] at found
    exact bad (Option.some.inj found ▸ admitted)

end Row

theorem Kind.payloadForeign {kind : Kind} {field : PayloadField}
    (foreign : kind.category.payloadField ≠ some field) : kind.payload field = none := by
  cases kind <;> cases field <;>
    simp_all [Kind.category, Category.payloadField, Kind.payload, Kind.symbol?, Kind.function?]

theorem Kind.payloadOwn {kind : Kind} {field : PayloadField}
    (own : kind.category.payloadField = some field) :
    ∃ text, kind.payload field = some text ∧ text ≠ "" ∧ field.Admits text := by
  cases kind with
  | infixArithmetic symbol | prefixArithmetic symbol =>
    cases own
    exact ⟨symbol.text, rfl, symbol.nonempty, compactIff.mp symbol.compact⟩
  | elementwiseFunction function =>
    cases own
    exact ⟨function.text, rfl, function.nonempty, spelledIff.mp function.valid⟩
  | _ => cases own

namespace Row

variable {row : Row} {check : Check} {error : Error} {field : PayloadField} {op : Operation}

theorem Reads.acceptable (reads : row.Reads op) : row.Acceptable where
  name := reads.name ▸ spelledIff.mp op.name.valid
  enumName := reads.enumName ▸ spelledIff.mp op.enumName.valid
  difference := by
    rw [← reads.enumName, ← reads.name]
    exact op.distinct
  foreign := fun field foreign => by
    rw [← reads.category] at foreign
    rw [← reads.payload, Kind.payloadForeign foreign]
  own := fun field own => by
    rw [← reads.category] at own
    rw [← reads.payload]
    exact Kind.payloadOwn own

/- The row that an operation is written back to is the row it was read from, with the enumeration
name spelled out. -/
theorem Reads.toRow (reads : row.Reads op) :
    op.toRow = { row with enumName := some row.resolvedEnumName } := by
  have symbol : op.kind.symbol? = row.symbol := reads.payload .symbol
  have function : op.kind.function? = row.function := reads.payload .function
  have category : op.kind.category = row.category := reads.category
  rw [Operation.toRow, reads.name, reads.enumName, category, symbol, function]

theorem checkIdentifierCases (operation : String) (part : Part) (value : String) :
    (∃ name, checkIdentifier operation part value = .ok name ∧ name.text = value) ∨
    ¬ Spelled value ∧ checkIdentifier operation part value =
      .error (.invalidIdentifier operation part value (spellingDefect value)) := by
  unfold checkIdentifier spellingDefect
  split
  · rename_i empty
    exact Or.inr ⟨fun spelled => spelledSome spelled empty, rfl⟩
  · split
    · exact Or.inl ⟨_, rfl, rfl⟩
    · rename_i invalid
      exact Or.inr ⟨mt spelledIff.mpr invalid, rfl⟩

theorem checkSymbolCases (operation value : String) (nonempty : value ≠ "") :
    (∃ symbol, checkSymbol operation value nonempty = .ok symbol ∧ symbol.text = value) ∨
    ¬ Compact value ∧ checkSymbol operation value nonempty =
      .error (.invalidIdentifier operation (.payload .symbol) value .holdsBlank) := by
  unfold checkSymbol
  split
  · rename_i blank
    refine Or.inr ⟨fun compact => ?_, rfl⟩
    rw [compactIff.mpr compact] at blank
    contradiction
  · exact Or.inl ⟨_, rfl, rfl⟩

theorem checkStrayCases (row : Row) (field : PayloadField) :
    (row.checkStray field = .ok () ∧ ∀ e, ¬ row.Refused (.stray field) e) ∨
    ∃ e, row.Refused (.stray field) e ∧ row.checkStray field = .error e := by
  unfold checkStray
  split
  · rename_i stray
    exact Or.inr ⟨_, .stray (Option.isSome_iff_ne_none.mp stray.1) stray.2, rfl⟩
  · rename_i fine
    refine Or.inl ⟨rfl, fun e refused => fine ?_⟩
    cases refused with
    | stray given foreign => exact ⟨Option.isSome_iff_ne_none.mpr given, foreign⟩

theorem requirePayloadCases (own : row.category.payloadField = some field) :
    (∃ text, row.requirePayload field = .ok text ∧ row.payload field = some text.val ∧
      ∀ e, ¬ row.Refused .presence e) ∨
    ∃ e, row.Refused .presence e ∧ row.requirePayload field = .error e := by
  unfold requirePayload
  split
  · rename_i none
    exact Or.inr ⟨_, .presence own (Or.inl none), rfl⟩
  · rename_i text given
    split
    · rename_i empty
      exact Or.inr ⟨_, .presence own (Or.inr (empty ▸ given)), rfl⟩
    · rename_i some_
      refine Or.inl ⟨⟨text, some_⟩, rfl, given, fun e refused => ?_⟩
      cases refused with
      | presence other absent =>
        cases Option.some.inj (own.symm.trans other)
        rcases absent with none | empty
        · rw [none] at given
          contradiction
        · rw [empty] at given
          exact some_ (Option.some.inj given).symm

/- What comes of reading the kind of a row, once nothing stray is in it. -/
inductive KindJudged (row : Row) : Except Error Kind → Prop where
  | read {kind : Kind} (category : kind.category = row.category)
      (payload : ∀ field, row.category.payloadField = some field →
        kind.payload field = row.payload field) : KindJudged row (.ok kind)
  | absent {error : Error} (refused : row.Refused .presence error) : KindJudged row (.error error)
  | malformed {error : Error} (present : ∀ e, ¬ row.Refused .presence e)
      (refused : row.Refused .form error) : KindJudged row (.error error)

/- A payload that has to be there is read before the kind is built on it. -/
theorem payloadJudged {α : Type} {read : { text : String // text ≠ "" } → Except Error α}
    {build : α → Kind} {spelling : α → String} (own : row.category.payloadField = some field)
    (each : ∀ text, (∃ x, read text = .ok x ∧ spelling x = text.val) ∨
      ¬ field.Admits text.val ∧ read text =
        .error (.invalidIdentifier row.name (.payload field) text.val field.defect))
    (category : ∀ x, (build x).category = row.category)
    (payload : ∀ x, (build x).payload field = some (spelling x)) :
    row.KindJudged (do
      let text ← row.requirePayload field
      return build (← read text)) := by
  rcases requirePayloadCases own with ⟨text, found, given, present⟩ | ⟨e, refused, failed⟩
  · rw [found]
    rcases each text with ⟨x, ok, spelled⟩ | ⟨bad, failed⟩
    · show row.KindJudged (do return build (← read text))
      rw [ok]
      refine .read (category x) fun other same => ?_
      cases Option.some.inj (own.symm.trans same)
      rw [payload, spelled, given]
    · show row.KindJudged (do return build (← read text))
      rw [failed]
      exact .malformed present (.form own given bad)
  · rw [failed]
    exact .absent refused

theorem checkKindJudged (row : Row) : row.KindJudged row.checkKind := by
  have bare : ∀ {kind : Kind}, kind.category = row.category → row.category.payloadField = none →
      row.KindJudged (.ok kind) :=
    fun category none => .read category fun field own => by rw [none] at own; contradiction
  unfold checkKind
  split <;> rename_i category
  · exact payloadJudged (by rw [category]; rfl) (fun text => checkSymbolCases _ _ text.property)
      (fun _ => category.symm) fun _ => rfl
  · exact payloadJudged (by rw [category]; rfl) (fun text => checkSymbolCases _ _ text.property)
      (fun _ => category.symm) fun _ => rfl
  · refine payloadJudged (by rw [category]; rfl) (fun text => ?_) (fun _ => category.symm)
      fun _ => rfl
    have judged := checkIdentifierCases row.name (.payload .function) text.val
    rwa [spellingDefect, if_neg text.property] at judged
  all_goals exact bare category.symm (by rw [category]; rfl)

/- What comes of reading a row. -/
inductive Judged (row : Row) : Except Error Operation → Prop where
  | accepted {op : Operation} (reads : row.Reads op) : Judged row (.ok op)
  | refused {check : Check} {error : Error} (first : row.FirstRefused check error) :
      Judged row (.error error)

theorem firstRefused (refused : row.Refused check error) (passed : row.Passes check.earlier) :
    row.Judged (.error error) :=
  .refused ⟨refused, passed⟩

end Row

/- One check after the other, with what the earlier ones have let pass. -/
open Row in
theorem Operation.ofRowJudged (row : Row) : row.Judged (Operation.ofRow row) := by
  have passes : row.Passes [] := List.forall_mem_nil _
  unfold Operation.ofRow
  rcases checkIdentifierCases row.name .name row.name with ⟨name, read, named⟩ | ⟨bad, failed⟩
  case inr =>
    rw [failed]
    exact firstRefused (.name bad) passes
  replace passes := passes.next (fitsName (named ▸ spelledIff.mp name.valid))
  rw [read]
  rcases checkIdentifierCases row.name .enumName row.resolvedEnumName with
    ⟨enumName, read, enumNamed⟩ | ⟨bad, failed⟩
  case inr =>
    rw [failed]
    exact firstRefused (.enumName bad) passes
  replace passes := passes.next (fitsEnumName (enumNamed ▸ spelledIff.mp enumName.valid))
  rw [read]
  show row.Judged (if same : enumName.text = name.text then _ else _)
  split
  case isTrue same =>
    rw [enumNamed, named] at same
    exact firstRefused (.difference same) passes
  case isFalse differ =>
    replace passes := passes.next (fitsDifference (by rwa [← enumNamed, ← named]))
    rcases row.checkStrayCases .symbol with ⟨fine, noSymbol⟩ | ⟨e, refused, failed⟩
    case inr =>
      rw [failed]
      exact firstRefused refused passes
    replace passes := passes.next noSymbol
    rw [fine]
    rcases row.checkStrayCases .function with ⟨fine, noFunction⟩ | ⟨e, refused, failed⟩
    case inr =>
      rw [failed]
      exact firstRefused refused passes
    replace passes := passes.next noFunction
    rw [fine]
    have none : ∀ field, row.category.payloadField ≠ some field → row.payload field = none := by
      intro field foreign
      by_contra given
      cases field with
      | symbol => exact noSymbol _ (.stray given foreign)
      | function => exact noFunction _ (.stray given foreign)
    have judged := row.checkKindJudged
    cases result : row.checkKind with
    | ok kind =>
      rw [result] at judged
      cases judged with
      | read category payload =>
        refine .accepted ⟨named, enumNamed, category, fun field => ?_⟩
        by_cases own : row.category.payloadField = some field
        · exact payload field own
        · rw [none field own]
          exact Kind.payloadForeign (category ▸ own)
    | error e =>
      rw [result] at judged
      cases judged with
      | absent refused => exact firstRefused refused passes
      | malformed present refused => exact firstRefused refused (passes.next present)

/- The operation that an error is about. -/
def Error.operation? : Error → Option String
  | .missingField operation _ _ | .unexpectedField operation _ _
  | .invalidIdentifier operation _ _ _ | .enumNameEqualsName operation
  | .missingTerminal operation _ => some operation
  | _ => none

/- What an author gets to see of it. -/
def Error.Names (error : Error) (operation : String) : Prop :=
  error.operation? = some operation ∧
    ∃ front back, error.message = front ++ (operation ++ back)

section
variable {row : Row} {check : Check} {error : Error}

theorem Row.Refused.names (refused : row.Refused check error) : error.Names row.name := by
  have apart : ∀ a b c d : String, a ++ b ++ c ++ d = a ++ (b ++ (c ++ d)) := by
    intro a b c d
    simp only [String.append_assoc]
  have inside : ∀ part value defect,
      (Error.invalidIdentifier row.name part value defect).Names row.name :=
    fun part value defect => ⟨rfl, _, _, apart _ row.name _ _⟩
  have last : ∀ front : String, ∃ start back, front ++ row.name = start ++ (row.name ++ back) :=
    fun front => ⟨front, "", by rw [String.append_empty]⟩
  cases refused with
  | name | enumName | form => exact inside _ _ _
  | difference => exact ⟨rfl, "Operation ", _, String.append_assoc⟩
  | stray | presence => exact ⟨rfl, last _⟩

theorem Row.spelledDefault (none : row.enumName = none) (spelled : Spelled row.name) :
    Spelled row.resolvedEnumName ∧ row.resolvedEnumName ≠ row.name := by
  rw [resolvedEnumName, none, Option.getD_none, defaultEnumName]
  refine ⟨spelledIff.mp (Text.isIdentifierAppend (spelledIff.mpr spelled) (by decide)), fun same => ?_⟩
  have lengths := congrArg String.length same
  rw [String.length_append] at lengths
  have longer : "_ENUM".length = 5 := rfl
  omega

/- With a name that passes, so does the enumeration name made from it. -/
theorem Row.defaultPasses (none : row.enumName = none) :
    ¬ row.FirstRefused .enumName error ∧ ¬ row.FirstRefused .difference error := by
  have spelled : row.Passes [.name] → Spelled row.name := by
    intro passes
    by_contra bad
    exact passes .name (by simp) _ (.name bad)
  constructor
  · intro first
    exact fitsEnumName (row.spelledDefault none (spelled first.passed)).1 _ first.refused
  · intro first
    have name : row.Passes [.name] := List.forall_mem_singleton.mpr (first.passed .name (by decide))
    exact fitsDifference (row.spelledDefault none (spelled name)).2 _ first.refused

theorem Operation.ofRowError :
    Operation.ofRow row = .error error ↔ ∃ check, row.FirstRefused check error := by
  have judged := Operation.ofRowJudged row
  constructor
  · intro failed
    rw [failed] at judged
    cases judged with
    | refused first => exact ⟨_, first⟩
  · rintro ⟨check, first⟩
    cases result : Operation.ofRow row with
    | ok op =>
      rw [result] at judged
      cases judged with
      | accepted reads => exact absurd first.refused reads.acceptable.passes
    | error cause =>
      rw [result] at judged
      cases judged with
      | refused other => rw [(other.unique first).2]

theorem Operation.ofRowReads {op : Operation} (read : Operation.ofRow row = .ok op) :
    row.Reads op := by
  have judged := Operation.ofRowJudged row
  rw [read] at judged
  cases judged with
  | accepted reads => exact reads

theorem Operation.ofRowOk : (∃ op, Operation.ofRow row = .ok op) ↔ row.Acceptable := by
  constructor
  · rintro ⟨op, read⟩
    exact (Operation.ofRowReads read).acceptable
  · intro fine
    cases result : Operation.ofRow row with
    | ok op => exact ⟨op, rfl⟩
    | error error =>
      obtain ⟨check, first⟩ := Operation.ofRowError.mp result
      exact absurd first.refused fine.passes

end

theorem rowsChecked (row : Row) :
    ((∃ op, Operation.ofRow row = .ok op) ↔ row.Acceptable) ∧
    (∀ error, Operation.ofRow row = .error error ↔ ∃ check, row.FirstRefused check error) ∧
    (∀ check error, row.FirstRefused check error → error.Names row.name) ∧
    (row.enumName = none → row.resolvedEnumName = row.name ++ "_ENUM" ∧
      ∀ error, ¬ row.FirstRefused .enumName error ∧ ¬ row.FirstRefused .difference error) ∧
    ∀ op, Operation.ofRow row = .ok op → row.Reads op ∧
      op.toRow = { row with enumName := some row.resolvedEnumName } ∧
      Operation.ofRow op.toRow = .ok op := by
  refine ⟨Operation.ofRowOk, fun error => Operation.ofRowError, fun check error first =>
    first.refused.names, fun none => ⟨by rw [Row.resolvedEnumName, none]; rfl,
      fun error => row.defaultPasses none⟩, fun op read => ?_⟩
  have reads := Operation.ofRowReads read
  exact ⟨reads, reads.toRow, op.ofRowToRow⟩

/- Its symbol reads like a placeholder, and it leaves the enumeration name open. -/
def bracedRow : Row := ⟨"PLUS", none, .infixArithmetic, some "{{symbol}}", none⟩

/- Its payload is empty, and it has one that is not its own as well. -/
def crowdedRow : Row := ⟨"PLUS", none, .infixArithmetic, some "", some "add"⟩

theorem bracedRowReads :
    bracedRow.enumName = none ∧ ∃ op, Operation.ofRow bracedRow = .ok op ∧
      op.enumName.text = "PLUS_ENUM" ∧ Operation.ofRow op.toRow = .ok op ∧
      Operation.ofRow crowdedRow = .error (.unexpectedField "PLUS" .infixArithmetic .function) ∧
      ∃ check, crowdedRow.FirstRefused check (.unexpectedField "PLUS" .infixArithmetic .function) := by
  obtain ⟨_, _, _, defaulted, accepted⟩ := rowsChecked bracedRow
  have read : Operation.ofRow bracedRow = .ok ⟨⟨"PLUS", by decide⟩, ⟨"PLUS_ENUM", by decide⟩,
      by decide, .infixArithmetic ⟨"{{symbol}}", by decide, by decide⟩⟩ := by rfl
  have crowded : Operation.ofRow crowdedRow =
      .error (.unexpectedField "PLUS" .infixArithmetic .function) := by rfl
  obtain ⟨reads, _, again⟩ := accepted _ read
  refine ⟨rfl, _, read, ?_, again, crowded, ((rowsChecked crowdedRow).2.1 _).mp crowded⟩
  exact reads.enumName.trans (defaulted rfl).1

end DoubleDispatch.Catalog
