import DoubleDispatch.Proofs.Text.Blocks
import DoubleDispatch.Proofs.Text.Scan

/-! Class declarations as a compiler sees them: the name, the base, the members line by line. A
member that overrides repeats a declaration of the base, with one word behind it. -/
namespace DoubleDispatch.Text

structure ClassText where
  name : String
  base : Option String
  members : List String
  deriving DecidableEq, Repr

def readClass (block : Block) : Option ClassText := do
  let rest ← dropFront? "class " block.head
  let (name, rest) := span identifierPart rest
  if rest = "" then some ⟨name, none, block.body⟩
  else do
    let rest ← dropFront? ": public " rest
    some ⟨name, some (span identifierPart rest).1, block.body⟩

/- How the declaration of a virtual member starts. -/
def runStart : String := "    virtual void * run("

def evalStart : String := "    virtual void * eval("

/- The declaration that an override repeats. -/
def overridden? (line : String) : Option String := (dropBack? " override;" line).map (· ++ ";")

namespace ClassText

def declared (c : ClassText) (start : String) : List String :=
  c.members.filter (fun line => (dropFront? start line).isSome)

variable {name start line : String} {base : Option String} {members : List String}

theorem declaredNone (none : ∀ l ∈ members, (dropFront? start l).isSome = false) :
    (ClassText.mk name base members).declared start = [] :=
  List.filter_eq_nil_iff.mpr fun l member => by simp [none l member]

theorem declaredAll (all : ∀ l ∈ members, (dropFront? start l).isSome = true) :
    (ClassText.mk name base members).declared start = members :=
  List.filter_eq_self.mpr all

theorem declaredSkip (other : (dropFront? start line).isSome = false) :
    (ClassText.mk name base (line :: members)).declared start =
      (ClassText.mk name base members).declared start :=
  List.filter_cons_of_neg (by simp [other])

theorem declaredTake (found : (dropFront? start line).isSome = true) :
    (ClassText.mk name base (line :: members)).declared start =
      line :: (ClassText.mk name base members).declared start :=
  List.filter_cons_of_pos found

end ClassText

theorem readBareClass {name : String} (parts : ∀ c ∈ name.toList, identifierPart c = true)
    (members : List String) :
    readClass ⟨"class " ++ name, members⟩ = some ⟨name, none, members⟩ := by
  have whole := spanAppend parts stopsEmpty
  rw [String.append_empty] at whole
  simp only [readClass, dropFrontAppend, Option.bind_eq_bind, Option.bind_some, whole, if_true]

theorem readDerivedClass {name base rest : String}
    (parts : ∀ c ∈ name.toList, identifierPart c = true)
    (baseParts : ∀ c ∈ base.toList, identifierPart c = true) (stops : Stops identifierPart rest)
    (members : List String) :
    readClass ⟨"class " ++ (name ++ (": public " ++ (base ++ rest))), members⟩ =
      some ⟨name, some base, members⟩ := by
  have first : span identifierPart (name ++ (": public " ++ (base ++ rest))) =
      (name, ": public " ++ (base ++ rest)) := spanAppend parts (stopsAt rfl _ _)
  have more : ": public " ++ (base ++ rest) ≠ "" := startsSome _ _ _
  simp only [readClass, dropFrontAppend, Option.bind_eq_bind, Option.bind_some, first, more,
    if_false, spanAppend baseParts stops]

theorem overriddenAfter {line declared : String} (front : String)
    (found : overridden? line = some declared) :
    overridden? (front ++ line) = some (front ++ declared) := by
  obtain ⟨start, dropped, rfl⟩ := Option.map_eq_some_iff.mp found
  rw [dropBackSome dropped, overridden?, ← String.append_assoc, dropBackAppend, Option.map_some,
    String.append_assoc]

theorem declaredAfter {start front : String} (found : (dropFront? start front).isSome = true)
    (line : String) : (dropFront? start (front ++ line)).isSome = true := by
  obtain ⟨rest, dropped⟩ := Option.isSome_iff_exists.mp found
  rw [dropFrontSome dropped, String.append_assoc, dropFrontAppend]
  rfl

theorem agreeing {a b x y : List Char} (same : a ++ x = b ++ y) : ∀ p ∈ a.zip b, p.1 = p.2 := by
  induction a generalizing b with
  | nil => simp
  | cons c a ih =>
    cases b with
    | nil => simp
    | cons d b =>
      simp only [List.cons_append, List.cons.injEq] at same
      simp only [List.zip_cons_cons, List.forall_mem_cons]
      exact ⟨same.1, ih same.2⟩

/- Two texts have different characters at some place. -/
def apart (a b : String) : Bool := (a.toList.zip b.toList).any (fun p => p.1 != p.2)

theorem startsOtherwise {start front : String} (other : apart start front = true)
    (line : String) :
    (dropFront? start (front ++ line)).isSome = false := by
  cases found : dropFront? start (front ++ line) with
  | none => rfl
  | some rest =>
    have same := congrArg String.toList (dropFrontSome found)
    rw [String.toList_append, String.toList_append] at same
    obtain ⟨p, member, differ⟩ := List.any_eq_true.mp other
    exact absurd (agreeing same.symm p member) (bne_iff_ne.mp differ)

end DoubleDispatch.Text
