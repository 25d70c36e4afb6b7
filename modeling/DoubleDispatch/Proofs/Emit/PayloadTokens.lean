import DoubleDispatch.Proofs.Emit.Skeletons
import DoubleDispatch.Proofs.Text.Characters

/-! Payloads as tokens. Two texts merge where a word at the end of one runs on at the start of the
next. What the templates put in front of a payload never ends as a word does, and of what they put
behind it a single text starts as one: an element of a buffer, to which a prefix operator is written
without anything in between. -/
namespace DoubleDispatch.Emit
open Catalog (Category Operation Row)
open Text (LetterOrDigit letterOrDigitIff identifierPart endsType unlines)

def Merge (left right : String) : Prop :=
  ∃ c d, left.toList.getLast? = some c ∧ right.toList.head? = some d ∧
    LetterOrDigit c ∧ LetterOrDigit d

structure StandsAlone (before payload after : String) : Prop where
  front : ¬ Merge before payload
  back : ¬ Merge payload after

def EndsAsWord (text : String) : Prop := ∃ c, text.toList.getLast? = some c ∧ LetterOrDigit c

/- All text of a function up to the payload. -/
def Skeleton.before (s : Skeleton) (name : String) : String :=
  s.front ++ (name ++ ("Runner::run(" ++ s.middle))

theorem Skeleton.fillParts (s : Skeleton) (name payload : String) :
    s.fill name payload = s.before name ++ (payload ++ s.back) := by
  simp only [fill, before, String.append_assoc]

/- The text ends, and not within a word. -/
def endsOpen (text : String) : Bool := text.toList.getLast?.any (fun c => !identifierPart c)

section
variable {front back payload : String}

theorem openAppend (ends : endsOpen back = true) : endsOpen (front ++ back) = true := by
  unfold endsOpen at ends ⊢
  rw [String.toList_append, List.getLast?_append]
  cases last : back.toList.getLast? with
  | none => simp [last] at ends
  | some c => simpa [last] using ends

theorem openKeepsApart (ends : endsOpen front = true) : ¬ Merge front payload := by
  rintro ⟨c, _, last, _, word, _⟩
  rw [endsOpen, last, Option.any_some, letterOrDigitIff.mpr word] at ends
  contradiction

theorem stopKeepsApart (stops : endsType back = true) (rest : String) :
    ¬ Merge payload (back ++ rest) := by
  rintro ⟨_, d, _, first, _, word⟩
  have other := Text.endsTypeStops stops rest d first
  rw [letterOrDigitIff.mpr word] at other
  contradiction

theorem wordMerges {d : Char} {cs : List Char} (word : LetterOrDigit d) (rest : String) :
    Merge payload (String.ofList (d :: cs) ++ rest) ↔ EndsAsWord payload := by
  have first : (String.ofList (d :: cs) ++ rest).toList.head? = some d := by simp
  constructor
  · rintro ⟨c, _, last, _, ends, _⟩
    exact ⟨c, last, ends⟩
  · rintro ⟨c, last, ends⟩
    exact ⟨c, d, last, first, ends, word⟩

end

section
variable {category : Category} (has : category.hasBodies = true) (overload : Overload)
include has

/- In front of a payload stands a blank, a bracket or a colon. -/
theorem leadOpen : endsOpen (frame category overload.result).lead = true := by
  have value : endsOpen (surroundings category).valueLead = true := by
    revert has
    cases category <;> decide
  have element : endsOpen ("    newData[i] = " ++ (surroundings category).elementLead) = true := by
    revert has
    cases category <;> decide
  unfold frame
  split
  · exact openAppend value
  · exact element

theorem beforeOpen (name : String) : endsOpen ((skeleton category overload).before name) = true := by
  have middle : endsOpen (skeleton category overload).middle = true :=
    openAppend (openAppend (openAppend (openAppend (leadOpen has overload))))
  exact openAppend (openAppend (openAppend middle))

/- Everywhere else a blank or a bracket stands behind it. -/
theorem tailStops (other : ¬ (category = .prefixArithmetic ∧ overload.isScalar = false)) :
    endsType (frame category overload.result).tail = true := by
  have value : endsType (surroundings category).valueTail = true := by
    revert has
    cases category <;> decide
  have element : category ≠ .prefixArithmetic →
      endsType (surroundings category).elementTail = true := by
    revert has
    cases category <;> decide
  unfold frame
  split
  · exact value
  · rename_i matrix
    exact element fun pre => other ⟨pre, Bool.eq_false_iff.mpr matrix⟩

omit has in
theorem prefixTail (matrix : overload.isScalar = false) :
    (frame .prefixArithmetic overload.result).tail = "data[i];" := by
  have value : overload.result.isScalar = false := matrix
  rw [frame, value]
  rfl

theorem standsAloneIff (name payload : String) :
    StandsAlone ((skeleton category overload).before name) payload (skeleton category overload).back ↔
      ¬ (category = .prefixArithmetic ∧ overload.isScalar = false ∧ EndsAsWord payload) := by
  have front : ¬ Merge ((skeleton category overload).before name) payload :=
    openKeepsApart (beforeOpen has overload name)
  by_cases glued : category = .prefixArithmetic ∧ overload.isScalar = false
  · obtain ⟨rfl, matrix⟩ := glued
    have merges : Merge payload (skeleton .prefixArithmetic overload).back ↔ EndsAsWord payload := by
      rw [skeleton, prefixTail overload matrix]
      exact wordMerges (letterOrDigitIff.mp (by decide : identifierPart 'd' = true)) _
    constructor
    · rintro alone ⟨_, _, word⟩
      exact alone.back (merges.mpr word)
    · intro other
      exact ⟨front, fun merge => other ⟨rfl, matrix, merges.mp merge⟩⟩
  · constructor
    · rintro _ ⟨pre, matrix, _⟩
      exact glued ⟨pre, matrix⟩
    · intro _
      exact ⟨front, stopKeepsApart (tailStops has overload glued) _⟩

end

theorem payloadsStandAlone {op : Operation} (has : op.category.hasBodies = true) :
    ∃ payload, op.kind.payload? = some payload ∧
      bodies op = .ok ((overloads op.category).map fun overload =>
        (skeleton op.category overload).before op.name.text ++
          (payload ++ (skeleton op.category overload).back)) ∧
      ∀ overload ∈ overloads op.category,
        (StandsAlone ((skeleton op.category overload).before op.name.text) payload
          (skeleton op.category overload).back ↔
        ¬ (op.category = .prefixArithmetic ∧ overload.isScalar = false ∧ EndsAsWord payload)) := by
  obtain ⟨payload, _, _, spelled, filled⟩ := bodiesFilled has
  simp only [Skeleton.fillParts] at filled
  exact ⟨payload.text, spelled, filled,
    fun overload _ => standsAloneIff has overload op.name.text payload.text⟩

/- A prefix operator that is spelled as a word. -/
def wordRow : Row := ⟨"NOT", none, .prefixArithmetic, some "not", none⟩

def wordOperation : Operation :=
  ⟨⟨"NOT", by decide⟩, ⟨"NOT_ENUM", by decide⟩, by decide,
    .prefixArithmetic ⟨"not", by decide, by decide⟩⟩

theorem wordEnds : EndsAsWord "not" :=
  ⟨'t', rfl, letterOrDigitIff.mp (by decide)⟩

theorem wordPayloadStands : wordOperation.category.hasBodies = true ∧
    StandsAlone ((skeleton .prefixArithmetic (.unary realScalar)).before "NOT") "not"
      (skeleton .prefixArithmetic (.unary realScalar)).back ∧
    ¬ StandsAlone ((skeleton .prefixArithmetic (.unary realDense)).before "NOT") "not"
      (skeleton .prefixArithmetic (.unary realDense)).back := by
  have has : wordOperation.category.hasBodies = true := rfl
  obtain ⟨payload, spelled, _, alone⟩ := payloadsStandAlone has
  cases spelled
  refine ⟨has, (alone (.unary realScalar) (by decide)).mpr ?_, fun stands => ?_⟩
  · rintro ⟨_, matrix, _⟩
    exact absurd matrix (by decide)
  · exact (alone (.unary realDense) (by decide)).mp stands ⟨rfl, rfl, wordEnds⟩

/- The row is accepted. A bracket parts its operator from the operand in the body of the scalar, and
nothing does in that of the matrix. -/
theorem wordPayloadMerges : Operation.ofRow wordRow = .ok wordOperation ∧
    ∃ front rest before after, bodies wordOperation =
        .ok [front ++ ("not" ++ ("(arg->getValue()));" ++ rest)),
          before ++ ("not" ++ ("data[i];" ++ after))] ∧
      StandsAlone front "not" ("(arg->getValue()));" ++ rest) ∧
      ¬ StandsAlone before "not" ("data[i];" ++ after) := by
  have has : wordOperation.category.hasBodies = true := rfl
  obtain ⟨payload, _, _, spelled, filled⟩ := bodiesFilled has
  have word : "not" = payload.text := Option.some.inj spelled
  have texts : bodies wordOperation =
      .ok [(skeleton .prefixArithmetic (.unary realScalar)).fill "NOT" "not",
        (skeleton .prefixArithmetic (.unary realDense)).fill "NOT" "not"] := by
    rw [filled, ← word]
    rfl
  have tail : (frame .prefixArithmetic realDense).tail = "data[i];" :=
    prefixTail (.unary realDense) rfl
  have back : (skeleton .prefixArithmetic (.unary realDense)).back = "data[i];" ++ ("\n" ++
      unlines ((frame .prefixArithmetic realDense).below ++ closing)) := congrArg (· ++ _) tail
  have stands := (standsAloneIff has (.unary realScalar) "NOT" "not").mpr
    fun glued => absurd glued.2.1 (by decide)
  have merges := mt (standsAloneIff has (.unary realDense) "NOT" "not").mp
    fun other => other ⟨rfl, rfl, wordEnds⟩
  have parts := Skeleton.fillParts (skeleton .prefixArithmetic (.unary realDense)) "NOT" "not"
  rw [back] at parts
  rw [Skeleton.fillParts, parts] at texts
  exact ⟨rfl, _, _, _, _, texts, stands, fun alone => merges (back ▸ alone)⟩

end DoubleDispatch.Emit
