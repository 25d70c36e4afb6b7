import DoubleDispatch.Proofs.Outcome
import DoubleDispatch.Proofs.Template.Tags

/-! What becomes of a fragment that is set up call by call. Only the last value of every name
counts. It can be filled exactly when the names set are the placeholders of its kind, and the filled
text is the written template with its tags replaced, once. A fragment that cannot be filled lacks
the placeholder that is reported, or else has the name that is reported too much. -/
namespace DoubleDispatch.Template
open Outcome (mapOk mapMError mapMEach)

/- The value that the calls leave behind for a name. -/
def lastValue? (placeholder : String) : List (String × String) → Option String
  | [] => none
  | call :: later =>
    (lastValue? placeholder later).or (if call.1 = placeholder then some call.2 else none)

def lastValue (calls : List (String × String)) (placeholder : String) : String :=
  (lastValue? placeholder calls).getD ""

theorem lastValueNone {placeholder : String} {calls : List (String × String)} :
    lastValue? placeholder calls = none ↔ placeholder ∉ calls.map Prod.fst := by
  induction calls with
  | nil => simp [lastValue?]
  | cons call later ih =>
    simp only [lastValue?, Option.or_eq_none_iff, ih, List.map_cons, List.mem_cons, not_or,
      eq_comm (a := placeholder)]
    split <;> simp_all

/- The first placeholder that no call sets; if there is none, the least name that is too much. -/
inductive Fault (kind : Kind) (names : List String) : FillError → Prop where
  | missing {before : List String} {placeholder : String} {after : List String}
      (declared : kind.placeholders = before ++ placeholder :: after)
      (earlier : ∀ p ∈ before, p ∈ names) (absent : placeholder ∉ names) :
      Fault kind names (.missing kind placeholder)
  | unexpected {name : String} (present : ∀ p ∈ kind.placeholders, p ∈ names)
      (set : name ∈ names) (unknown : name ∉ kind.placeholders)
      (least : ∀ other ∈ names, other ∉ kind.placeholders → name ≤ other) :
      Fault kind names (.unexpected kind name)

theorem leastNameSome {names : List String} {name : String} :
    leastName names = some name ↔ name ∈ names ∧ ∀ other ∈ names, name ≤ other := by
  have found : ∀ {least : String}, leastName names = some least →
      least ∈ names ∧ ∀ other ∈ names, least ≤ other := by
    induction names with
    | nil => simp [leastName]
    | cons first rest ih =>
      intro least
      cases later : leastName rest with
      | none =>
        rw [leastNameNone.mp later]
        rintro ⟨⟩
        simp
      | some other =>
        obtain ⟨member, below⟩ := ih later
        rw [leastName, later, List.forall_mem_cons, List.mem_cons]
        rintro ⟨⟩
        split
        · rename_i smaller
          exact ⟨Or.inr member, String.not_lt.mp (String.lt_asymm smaller), below⟩
        · rename_i larger
          have first_ := String.not_lt.mp larger
          exact ⟨Or.inl rfl, String.le_refl _,
            fun x inside => String.le_trans first_ (below x inside)⟩
  refine ⟨found, fun held => ?_⟩
  obtain ⟨member, below⟩ := held
  cases least : leastName names with
  | none => simp [leastNameNone.mp least] at member
  | some other =>
    obtain ⟨inside, smallest⟩ := found least
    rw [String.le_antisymm (smallest name member) (below other inside)]

namespace Fragment

def setAll (f : Fragment) (calls : List (String × String)) : Fragment :=
  calls.foldl (fun f call => f.set call.1 call.2) f

theorem setAllKind (f : Fragment) (calls : List (String × String)) :
    (f.setAll calls).kind = f.kind := by
  induction calls generalizing f with
  | nil => rfl
  | cons call later ih => exact ih (f.set call.1 call.2)

theorem setAllValue (f : Fragment) (calls : List (String × String)) (placeholder : String) :
    (f.setAll calls).value? placeholder =
      (lastValue? placeholder calls).or (f.value? placeholder) := by
  induction calls generalizing f with
  | nil => rfl
  | cons call later ih =>
    rw [setAll, List.foldl_cons, ← setAll, ih, valueSet, lastValue?, Option.or_assoc]
    split <;> simp_all [eq_comm]

theorem ofValue (kind : Kind) (placeholder : String) :
    (Fragment.of kind).value? placeholder = none :=
  rfl

theorem setAllNames {kind : Kind} {calls : List (String × String)} {name : String} :
    name ∈ ((Fragment.of kind).setAll calls).names ↔ name ∈ calls.map Prod.fst := by
  rw [← not_iff_not, ← valueNone, setAllValue, ofValue, Option.or_none, lastValueNone]

theorem setAllText (kind : Kind) (calls : List (String × String)) :
    ((Fragment.of kind).setAll calls).text =
      String.join (kind.pieces.map (Piece.replaced (lastValue calls))) := by
  rw [text, setAllKind]
  refine congrArg String.join (List.map_congr_left fun piece _ => ?_)
  cases piece with
  | text literal => rfl
  | slot placeholder =>
    rw [textOf, setAllValue, ofValue, Option.or_none]
    rfl

theorem missingSome {f : Fragment} {placeholder : String} :
    f.missing? = some placeholder ↔ ∃ before after,
      f.kind.placeholders = before ++ placeholder :: after ∧ (∀ p ∈ before, p ∈ f.names) ∧
      placeholder ∉ f.names := by
  have present : ∀ p, (!(f.value? p).isNone) = true ↔ p ∈ f.names := by
    intro p
    rw [← not_iff_not, ← valueNone]
    simp
  simp only [missing?, List.find?_eq_some_iff_append, present, Option.isNone_iff_eq_none, valueNone]
  constructor
  · rintro ⟨absent, before, after, declared, earlier⟩
    exact ⟨before, after, declared, earlier, absent⟩
  · rintro ⟨before, after, declared, earlier, absent⟩
    exact ⟨absent, before, after, declared, earlier⟩

theorem unexpectedSome {f : Fragment} {name : String} :
    f.unexpected? = some name ↔ name ∈ f.names ∧ name ∉ f.kind.placeholders ∧
      ∀ other ∈ f.names, other ∉ f.kind.placeholders → name ≤ other := by
  simp only [unexpected?, leastNameSome, List.mem_filter, decide_eq_true_eq, and_imp, names,
    and_assoc]

theorem fillError {f : Fragment} {error : FillError} :
    f.fill = .error error ↔ Fault f.kind f.names error := by
  constructor
  · intro failed
    unfold fill at failed
    split at failed
    · rename_i placeholder _ missing
      obtain ⟨before, after, declared, earlier, absent⟩ := missingSome.mp missing
      exact Except.error.inj failed ▸ .missing declared earlier absent
    · rename_i name missing unexpected
      obtain ⟨set, unknown, least⟩ := unexpectedSome.mp unexpected
      exact Except.error.inj failed ▸ .unexpected (missingNone.mp missing) set unknown least
    · contradiction
  · intro fault
    cases fault with
    | missing declared earlier absent =>
      simp only [fill, missingSome.mpr ⟨_, _, declared, earlier, absent⟩]
    | unexpected present set unknown least =>
      simp only [fill, missingNone.mpr present, unexpectedSome.mpr ⟨set, unknown, least⟩]

theorem fillAllOk {fragments : List Fragment} {filled : String} :
    fillAll fragments = .ok filled ↔ ∃ texts,
      List.Forall₂ (fun f text => f.fill = .ok text) fragments texts ∧
      String.join texts = filled := by
  simp only [fillAll, mapOk, mapMEach]

theorem fillAllError {fragments : List Fragment} {error : FillError} :
    fillAll fragments = .error error ↔ ∃ before f after texts,
      fragments = before ++ f :: after ∧
      List.Forall₂ (fun f text => f.fill = .ok text) before texts ∧ f.fill = .error error := by
  rw [← mapMError, fillAll]
  cases fragments.mapM fill <;> simp [Except.map]

end Fragment

/- Only which names are set decides about a fault. -/
theorem Fault.congr {kind : Kind} {names others : List String} {error : FillError}
    (same : ∀ p, p ∈ others ↔ p ∈ names) (fault : Fault kind names error) :
    Fault kind others error := by
  cases fault with
  | missing declared earlier absent =>
    exact .missing declared (fun p member => (same p).mpr (earlier p member))
      fun set => absent ((same _).mp set)
  | unexpected present set unknown least =>
    exact .unexpected (fun p member => (same p).mpr (present p member)) ((same _).mpr set) unknown
      fun other inside => least other ((same other).mp inside)

section
variable {kind : Kind} {calls : List (String × String)}

theorem setAllOk {text : String} : ((Fragment.of kind).setAll calls).fill = .ok text ↔
    (∀ p, p ∈ calls.map Prod.fst ↔ p ∈ kind.placeholders) ∧
    text = expand (lastValue calls) kind.written := by
  rw [Fragment.fillOk, Fragment.setAllText, ← Kind.expanded]
  refine and_congr_left fun _ => ?_
  simp only [Fragment.Complete, Covers, Fragment.setAllNames, Fragment.setAllKind]
  exact ⟨fun ⟨present, known⟩ p => ⟨known p, present p⟩,
    fun same => ⟨fun p => (same p).mpr, fun p => (same p).mp⟩⟩

theorem setAllError {error : FillError} : ((Fragment.of kind).setAll calls).fill = .error error ↔
    Fault kind (calls.map Prod.fst) error := by
  rw [Fragment.fillError, Fragment.setAllKind]
  exact ⟨.congr fun _ => Fragment.setAllNames.symm, .congr fun _ => Fragment.setAllNames⟩

theorem setAllLast {others : List (String × String)}
    (same : ∀ p, lastValue? p others = lastValue? p calls) :
    ((Fragment.of kind).setAll others).fill = ((Fragment.of kind).setAll calls).fill := by
  have values : lastValue others = lastValue calls := by
    funext p
    rw [lastValue, lastValue, same]
  have names : ∀ p, p ∈ others.map Prod.fst ↔ p ∈ calls.map Prod.fst := by
    intro p
    rw [← not_iff_not, ← lastValueNone, ← lastValueNone, same]
  cases found : ((Fragment.of kind).setAll calls).fill with
  | ok text =>
    obtain ⟨cover, rfl⟩ := setAllOk.mp found
    exact setAllOk.mpr ⟨fun p => (names p).trans (cover p), by rw [values]⟩
  | error error => exact setAllError.mpr ((setAllError.mp found).congr names)

end

theorem fillSubstitutesOnce (kind : Kind) (calls : List (String × String)) :
    (∀ text, ((Fragment.of kind).setAll calls).fill = .ok text ↔
      (∀ p, p ∈ calls.map Prod.fst ↔ p ∈ kind.placeholders) ∧
      text = expand (lastValue calls) kind.written) ∧
    expand (lastValue calls) kind.written =
      String.join (kind.pieces.map (Piece.replaced (lastValue calls))) ∧
    (∃ front, expand (lastValue calls) kind.written = front ++ "\n") ∧
    (∀ others, (∀ p, lastValue? p others = lastValue? p calls) →
      ((Fragment.of kind).setAll others).fill = ((Fragment.of kind).setAll calls).fill) ∧
    (∀ error, ((Fragment.of kind).setAll calls).fill = .error error ↔
      Fault kind (calls.map Prod.fst) error) ∧
    ∀ fragments : List Fragment,
      (∀ text, Fragment.fillAll fragments = .ok text ↔ ∃ texts,
        List.Forall₂ (fun f text => f.fill = .ok text) fragments texts ∧
        String.join texts = text) ∧
      ∀ error, Fragment.fillAll fragments = .error error ↔ ∃ before f after texts,
        fragments = before ++ f :: after ∧
        List.Forall₂ (fun f text => f.fill = .ok text) before texts ∧ f.fill = .error error := by
  refine ⟨fun text => setAllOk, kind.expanded _, ?_, fun others => setAllLast,
    fun error => setAllError, fun fragments => ⟨fun text => Fragment.fillAllOk,
      fun error => Fragment.fillAllError⟩⟩
  obtain ⟨front, whole⟩ := kind.endsLine
  rw [kind.expanded, whole, List.map_append, String.join_append]
  exact ⟨_, congrArg _ (String.join_cons.trans String.append_empty)⟩

/- Members that read like a tag stand before a literal brace; the base is given twice. -/
def braceCalls : List (String × String) :=
  [("base", "A"), ("members", "{{ base }}"), ("nodename", "Plus"), ("base", "B")]

theorem braceValueKept :
    ((Fragment.of .runnerClass).setAll braceCalls).fill = .ok (Text.unlines
      ["class PlusRunner: public B, private Uncopyable", r"{", "  public:", r"{{ base }}};", ""]) ∧
    ((Fragment.of .runnerClass).setAll braceCalls.tail.reverse).fill =
      ((Fragment.of .runnerClass).setAll braceCalls).fill := by
  obtain ⟨_, _, _, last, _⟩ := fillSubstitutesOnce .runnerClass braceCalls
  refine ⟨rfl, last _ fun p => ?_⟩
  by_cases base : "base" = p
  · subst base; rfl
  · by_cases members : "members" = p
    · subst members; rfl
    · simp [braceCalls, lastValue?, base, members]

end DoubleDispatch.Template
