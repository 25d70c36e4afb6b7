import DoubleDispatch.Proofs.Text.Calls

/-! Members of classes, as a header declares them and as a source defines them. A definition starts
with its class, at the margin; a constructor also says what it hands on to the base. -/
namespace DoubleDispatch.Text

/- A class that is announced and no more. -/
def forwarded? (line : String) : Option String := (dropFront? "class " line).bind (dropBack? ";")

theorem forwardedOf (name : String) : forwarded? ("class " ++ (name ++ ";")) = some name := by
  rw [forwarded?, dropFrontAppend, Option.bind_some, dropBackAppend]

theorem forwardedNone {front : String} (other : apart "class " front = true) (rest : String) :
    forwarded? (front ++ rest) = none := by
  rw [forwarded?, dropFrontNone other, Option.bind_none]

/- A conversion as it is declared: the class that it leads to, and its own name. -/
structure Conversion where
  target : String
  name : String
  deriving DecidableEq, Repr

def conversion? (line : String) : Option Conversion := do
  let rest ← dropFront? "virtual const " (unindented line)
  let (target, rest) := span identifierPart rest
  let rest ← dropFront? "* " rest
  some ⟨target, (span identifierPart rest).1⟩

theorem conversionOf {target name rest : String}
    (parts : ∀ c ∈ target.toList, identifierPart c = true)
    (nameParts : ∀ c ∈ name.toList, identifierPart c = true) (stops : Stops identifierPart rest) :
    conversion? ("    virtual const " ++ (target ++ ("* " ++ (name ++ rest)))) =
      some ⟨target, name⟩ := by
  have line : unindented ("    virtual const " ++ (target ++ ("* " ++ (name ++ rest)))) =
      "virtual const " ++ (target ++ ("* " ++ (name ++ rest))) := unindentedAppend rfl _
  have split : span identifierPart (target ++ ("* " ++ (name ++ rest))) =
      (target, "* " ++ (name ++ rest)) := spanAppend parts (stopsAt rfl _ _)
  simp only [conversion?, line, dropFrontAppend, split, spanAppend nameParts stops,
    Option.bind_eq_bind, Option.bind_some]

structure Member where
  owner : String
  name : String
  deriving DecidableEq, Repr

def member? (line : String) : Option Member := do
  let (owner, rest) := span identifierPart line
  let rest ← dropFront? "::" rest
  some ⟨owner, functionName rest⟩

theorem functionNameOf {name : String} (plain : '(' ∉ name.toList) (rest : String) :
    functionName (name ++ ("(" ++ rest)) = name := by
  have all : ∀ c ∈ name.toList, (c != '(') = true := by
    intro c member
    rw [bne_iff_ne]
    rintro rfl
    exact plain member
  exact congrArg Prod.fst (spanAppend all (stopsAt rfl _ _))

theorem memberOf {owner name : String} (parts : ∀ c ∈ owner.toList, identifierPart c = true)
    (plain : '(' ∉ name.toList) (rest : String) :
    member? (owner ++ ("::" ++ (name ++ ("(" ++ rest)))) = some ⟨owner, name⟩ := by
  have split : span identifierPart (owner ++ ("::" ++ (name ++ ("(" ++ rest)))) =
      (owner, "::" ++ (name ++ ("(" ++ rest))) := spanAppend parts (stopsAt rfl _ _)
  simp only [member?, split, dropFrontAppend, functionNameOf plain, Option.bind_eq_bind,
    Option.bind_some]

theorem memberNone {line word front rest : String}
    (split : span identifierPart line = (word, front ++ rest)) (other : apart "::" front = true) :
    member? line = none := by
  simp only [member?, split, dropFrontNone other, Option.bind_eq_bind, Option.bind_none]

/- What starts with a blank names no class. -/
theorem memberIndented {line : String} (indented : Indented line) : member? line = none := by
  cases chars : line.toList with
  | nil => simp [Indented, chars] at indented
  | cons c cs =>
    obtain rfl : c = ' ' := by simpa [Indented, chars] using indented
    have split : span identifierPart line = ("", " " ++ String.ofList cs) := by
      have blank : String.ofList (' ' :: cs) = " " ++ String.ofList cs := by
        rw [← String.toList_inj]
        simp
      rw [span, chars, List.takeWhile_cons_of_neg (by decide),
        List.dropWhile_cons_of_neg (by decide), blank]
    exact memberNone split (by decide)

structure Constructor where
  owner : String
  parameters : List String
  base : String
  arguments : List String
  deriving DecidableEq, Repr

/- The first closing bracket ends the parameters, and the base is called behind it. -/
def constructor? (line : String) : Option Constructor := do
  let member ← member? line
  let declared ← readCall line
  let rest ← dropFront? "): " (span (· != ')') line).2
  let base ← readCall rest
  if member.owner = member.name then
    some ⟨member.owner, declared.operands, base.front, base.operands⟩
  else none

theorem operandsFromClosed {cs : List Char} (plain : '(' ∉ cs ∧ ')' ∉ cs)
    (operand rest : List Char) :
    operandsFrom 0 operand (cs ++ ')' :: rest) = operandsFrom 0 operand (cs ++ [')']) := by
  induction cs generalizing operand with
  | nil => simp [operandsFrom]
  | cons c cs ih =>
    simp only [List.mem_cons, not_or] at plain
    have step := ih ⟨plain.1.2, plain.2.2⟩
    have opens : c ≠ '(' := fun same => plain.1.1 same.symm
    have closes : c ≠ ')' := fun same => plain.2.1 same.symm
    simp only [List.cons_append, operandsFrom, opens, closes, if_false, step]

/- Nothing behind the bracket that closes them counts. -/
theorem operandsClosed {inner : String} (plain : '(' ∉ inner.toList ∧ ')' ∉ inner.toList)
    (rest : String) : operands? (inner ++ (")" ++ rest)) = operands? (inner ++ ")") := by
  have step := operandsFromClosed plain [] rest.toList
  simp only [operands?, String.toList_append]
  exact congrArg (Option.map _) step

theorem notClosing {name : String} (parts : ∀ c ∈ name.toList, identifierPart c = true) :
    '(' ∉ name.toList ∧ ')' ∉ name.toList :=
  ⟨fun inside => absurd (parts _ inside) (by decide),
   fun inside => absurd (parts _ inside) (by decide)⟩

/- The text up to the first closing bracket. -/
theorem closedAfter {front : String} (plain : ')' ∉ front.toList) (rest : String) :
    (span (· != ')') (front ++ (")" ++ rest))).2 = ")" ++ rest := by
  have all : ∀ c ∈ front.toList, (c != ')') = true := by
    intro c member
    rw [bne_iff_ne]
    rintro rfl
    exact plain member
  exact congrArg Prod.snd (spanAppend all (stopsAt rfl _ _))

theorem constructorOf {owner parameters base arguments : String} {taken passed : List String}
    (parts : ∀ c ∈ owner.toList, identifierPart c = true)
    (plain : '(' ∉ parameters.toList ∧ ')' ∉ parameters.toList)
    (baseParts : ∀ c ∈ base.toList, identifierPart c = true)
    (takes : operands? (parameters ++ ")") = some taken)
    (passes : operands? arguments = some passed) :
    constructor? (owner ++ ("::" ++ (owner ++ ("(" ++ (parameters ++ ("): " ++
      (base ++ ("(" ++ arguments)))))))) = some ⟨owner, taken, base, passed⟩ := by
  have close : "): " = ")" ++ ": " := by decide
  have outer : '(' ∉ (owner ++ ("::" ++ owner)).toList ∧
      ')' ∉ (owner ++ ("::" ++ owner)).toList := by
    obtain ⟨opens, closes⟩ := notClosing parts
    simp only [String.toList_append, List.mem_append, not_or]
    exact ⟨⟨opens, by decide, opens⟩, ⟨closes, by decide, closes⟩⟩
  have member := memberOf parts (notClosing parts).1
    (parameters ++ ("): " ++ (base ++ ("(" ++ arguments))))
  have declared : readCall (owner ++ ("::" ++ (owner ++ ("(" ++ (parameters ++ ("): " ++
      (base ++ ("(" ++ arguments)))))))) = some ⟨owner ++ ("::" ++ owner), taken⟩ := by
    have read : readCall ((owner ++ ("::" ++ owner)) ++ ("(" ++ (parameters ++ (")" ++ (": " ++
        (base ++ ("(" ++ arguments))))))) = some ⟨owner ++ ("::" ++ owner), taken⟩ := by
      rw [readCallAfter outer.1, operandsClosed plain, takes, Option.map_some]
    simpa only [close, String.append_assoc] using read
  have behind : (span (· != ')') (owner ++ ("::" ++ (owner ++ ("(" ++ (parameters ++ ("): " ++
      (base ++ ("(" ++ arguments))))))))).2 = "): " ++ (base ++ ("(" ++ arguments)) := by
    have front : ')' ∉ ((owner ++ ("::" ++ owner)) ++ ("(" ++ parameters)).toList := by
      rw [String.toList_append, List.mem_append, not_or]
      refine ⟨outer.2, ?_⟩
      rw [String.toList_append, List.mem_append, not_or]
      exact ⟨by decide, plain.2⟩
    have rest := closedAfter front (": " ++ (base ++ ("(" ++ arguments)))
    simpa only [close, String.append_assoc] using rest
  have called : readCall (base ++ ("(" ++ arguments)) = some ⟨base, passed⟩ := by
    rw [readCallAfter (notClosing baseParts).1, passes, Option.map_some]
  simp only [constructor?, member, declared, behind, dropFrontAppend, called, Option.bind_eq_bind,
    Option.bind_some, if_true]

theorem constructorNoMember {line : String} (other : member? line = none) :
    constructor? line = none := by
  rw [constructor?, other]
  rfl

/- How the definition of a member without parameters starts. -/
def methodHead (owner name : String) : String := owner ++ ("::" ++ (name ++ "() const"))

section
variable {owner name : String} (parts : ∀ c ∈ owner.toList, identifierPart c = true)
  (nameParts : ∀ c ∈ name.toList, identifierPart c = true)
include parts nameParts

theorem methodMember : member? (methodHead owner name) = some ⟨owner, name⟩ :=
  memberOf parts (notClosing nameParts).1 ") const"

theorem methodFunction : functionName (methodHead owner name) = owner ++ ("::" ++ name) := by
  have plain : '(' ∉ (owner ++ ("::" ++ name)).toList := by
    simp only [String.toList_append, List.mem_append, not_or]
    exact ⟨(notClosing parts).1, by decide, (notClosing nameParts).1⟩
  have split : methodHead owner name = (owner ++ ("::" ++ name)) ++ ("(" ++ ") const") := by
    have last : "() const" = "(" ++ ") const" := by decide
    simp only [methodHead, last, String.append_assoc]
  rw [split, functionNameOf plain]

/- No base is called in front of the body. -/
theorem methodNoConstructor : constructor? (methodHead owner name) = none := by
  have front : ')' ∉ (owner ++ ("::" ++ (name ++ "("))).toList := by
    simp only [String.toList_append, List.mem_append, not_or]
    exact ⟨(notClosing parts).2, by decide, (notClosing nameParts).2, by decide⟩
  have split : methodHead owner name =
      (owner ++ ("::" ++ (name ++ "("))) ++ (")" ++ " const") := by
    have last : "() const" = "(" ++ (")" ++ " const") := by decide
    simp only [methodHead, last, String.append_assoc]
  have other : dropFront? "): " (")" ++ " const") = none := by decide
  have behind := closedAfter front " const"
  rw [← split] at behind
  have member := methodMember parts nameParts
  cases read : readCall (methodHead owner name) <;>
    simp only [constructor?, member, read, behind, other, Option.bind_eq_bind, Option.bind_some,
      Option.bind_none]

end

/- Class and name of a member can be told from the two together. -/
theorem methodNamesApart {owner other name last : String}
    (parts : ∀ c ∈ owner.toList, identifierPart c = true)
    (otherParts : ∀ c ∈ other.toList, identifierPart c = true)
    (same : owner ++ ("::" ++ name) = other ++ ("::" ++ last)) : owner = other ∧ name = last := by
  have split := congrArg (span identifierPart) same
  rw [spanAppend parts (stopsAt rfl _ _), spanAppend otherParts (stopsAt rfl _ _),
    Prod.mk.injEq, String.append_right_inj] at split
  exact split

/- The lines that a function is written with. -/
def Block.written (f : Block) : List String := f.head :: r"{" :: (f.body ++ [r"}"])

theorem writtenConstructor {f : Block} (indented : ∀ l ∈ f.body, Indented l) :
    f.written.filterMap constructor? = (constructor? f.head).toList := by
  have inside : f.body.filterMap constructor? = [] := List.filterMap_eq_nil_iff.mpr
    fun l member => constructorNoMember (memberIndented (indented l member))
  have braces : constructor? r"{" = none ∧ constructor? r"}" = none := by decide
  cases read : constructor? f.head <;> simp [Block.written, read, inside, braces]

section
variable {f : Block} {m : Member} (named : member? f.head = some m)
  (indented : ∀ l ∈ f.body, Indented l)
include named indented

theorem writtenHolds : Holds f.written [f] := by
  have noBrace : f.head ≠ r"{" := by
    intro same
    rw [same, (by decide : member? r"{" = none)] at named
    contradiction
  exact holdsBlock noBrace (fun l member => (indented l member).closesNot) (by decide)

theorem writtenMember : f.written.filterMap member? = [m] := by
  have inside : f.body.filterMap member? = [] :=
    List.filterMap_eq_nil_iff.mpr fun l member => memberIndented (indented l member)
  have braces : member? r"{" = none ∧ member? r"}" = none := by decide
  simp [Block.written, named, inside, braces]

end
end DoubleDispatch.Text
