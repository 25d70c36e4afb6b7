import DoubleDispatch.Proofs.Template.Filling

/-! Templates as they are written, each placeholder in a tag of its own. One pass over the written
template that copies what stands outside of tags and puts values in the place of tags gives the
filled text: values are never looked at, so nothing inside one of them can pass for a tag. -/
namespace DoubleDispatch.Template

def Piece.written : Piece → List Char
  | .text literal => literal.toList
  | .slot placeholder => '{' :: '{' :: ' ' :: (placeholder.toList ++ [' ', '}', '}'])

def Kind.written (k : Kind) : String := String.ofList (k.pieces.flatMap Piece.written)

/- Where a reader of a written template stands; inside a tag, with the name as far as it is read. -/
inductive Spot where
  | outside
  | inside (name : List Char)
  deriving DecidableEq, Repr

def expandFrom (value : String → String) : Spot → List Char → List Char
  | _, [] => []
  | .outside, '{' :: '{' :: ' ' :: rest => expandFrom value (.inside []) rest
  | .outside, c :: rest => c :: expandFrom value .outside rest
  | .inside name, ' ' :: '}' :: '}' :: rest =>
    (value (String.ofList name)).toList ++ expandFrom value .outside rest
  | .inside name, c :: rest => expandFrom value (.inside (name ++ [c])) rest

def expand (value : String → String) (template : String) : String :=
  String.ofList (expandFrom value .outside template.toList)

def Piece.replaced (value : String → String) : Piece → String
  | .text literal => literal
  | .slot placeholder => value placeholder

def opensTag : List Char → Bool
  | '{' :: '{' :: _ => true
  | _ => false

/- No tag opens among the first characters, also not one that those behind go on with. -/
def keptBefore : List Char → List Char → Bool
  | [], _ => true
  | c :: cs, behind => !opensTag (c :: (cs ++ behind)) && keptBefore cs behind

theorem keptChars {cs behind : List Char} (kept : keptBefore cs behind = true) :
    keptBefore (String.ofList cs).toList behind = true := by rwa [String.toList_ofList]

def solid (name : String) : Bool := name.toList.all (· != ' ')

theorem solidChars {cs : List Char} (blankless : cs.all (· != ' ') = true) :
    solid (String.ofList cs) = true := by rwa [solid, String.toList_ofList]

/- Every literal of the pieces is kept before what is written behind it. -/
def LiteralsKept (last : List Char) : List Piece → Prop
  | [] => True
  | .text literal :: rest =>
    keptBefore literal.toList (rest.flatMap Piece.written ++ last) = true ∧ LiteralsKept last rest
  | .slot _ :: rest => LiteralsKept last rest

def Line.Kept : Line → Prop
  | ended pieces => LiteralsKept ['\n'] pieces
  | block _ => True

theorem Kind.literalsKept (k : Kind) : ∀ l ∈ k.lines, l.Kept := by
  cases k <;>
    simp only [Kind.lines, banner, Line.plain, Line.blank, Line.Kept, LiteralsKept,
      List.forall_mem_cons, List.cons_append, List.nil_append, List.not_mem_nil, false_implies,
      implies_true, and_true, true_and] <;>
    and_intros <;> exact keptChars rfl

theorem Kind.placeholdersSolid (k : Kind) : ∀ p ∈ k.placeholders, solid p = true := by
  cases k <;>
    simp only [Kind.placeholders, List.forall_mem_cons, List.not_mem_nil, false_implies,
      implies_true, and_true] <;>
    and_intros <;> exact solidChars rfl

section
variable (value : String → String)

theorem outsideKept {c : Char} {rest : List Char} (kept : opensTag (c :: rest) = false) :
    expandFrom value .outside (c :: rest) = c :: expandFrom value .outside rest := by
  rw [expandFrom]
  rintro behind rfl rfl
  simp [opensTag] at kept

theorem literalKept {literal behind : List Char} (kept : keptBefore literal behind = true) :
    expandFrom value .outside (literal ++ behind) =
      literal ++ expandFrom value .outside behind := by
  induction literal with
  | nil => rfl
  | cons c cs ih =>
    simp only [keptBefore, Bool.and_eq_true, Bool.not_eq_true'] at kept
    rw [List.cons_append, outsideKept value kept.1, ih kept.2, List.cons_append]

theorem nameRead {name : List Char} (blankless : name.all (· != ' ') = true)
    (read rest : List Char) :
    expandFrom value (.inside read) (name ++ ' ' :: '}' :: '}' :: rest) =
      (value (String.ofList (read ++ name))).toList ++ expandFrom value .outside rest := by
  induction name generalizing read with
  | nil => simp [expandFrom]
  | cons c cs ih =>
    simp only [List.all_cons, Bool.and_eq_true, bne_iff_ne] at blankless
    have step : expandFrom value (.inside read) (c :: (cs ++ ' ' :: '}' :: '}' :: rest)) =
        expandFrom value (.inside (read ++ [c])) (cs ++ ' ' :: '}' :: '}' :: rest) := by
      rw [expandFrom]
      rintro _ rfl
      exact absurd rfl blankless.1
    rw [List.cons_append, step, ih blankless.2, List.append_assoc, List.singleton_append]

theorem tagReplaced {placeholder : String} (named : solid placeholder = true) (rest : List Char) :
    expandFrom value .outside ((Piece.slot placeholder).written ++ rest) =
      (value placeholder).toList ++ expandFrom value .outside rest := by
  have read := nameRead value named [] rest
  rw [List.nil_append, String.ofList_toList] at read
  rw [← read]
  simp [Piece.written, expandFrom]

theorem opensTagHead {c : Char} {xs ys : List Char} (same : xs.head? = ys.head?) :
    opensTag (c :: xs) = opensTag (c :: ys) := by
  cases xs with
  | nil => cases ys with
    | nil => rfl
    | cons d ys => simp at same
  | cons d xs => cases ys with
    | nil => simp at same
    | cons e ys =>
      have heads : d = e := by simpa using same
      subst heads
      unfold opensTag
      split <;> split <;> simp_all

/- How the text goes on behind the next character does not matter. -/
theorem keptFurther {literal between : List Char} {c : Char}
    (kept : keptBefore literal (between ++ [c]) = true) (rest : List Char) :
    keptBefore literal (between ++ c :: rest) = true := by
  induction literal with
  | nil => rfl
  | cons d ds ih =>
    simp only [keptBefore, Bool.and_eq_true] at kept ⊢
    have same : (ds ++ (between ++ [c])).head? = (ds ++ (between ++ c :: rest)).head? := by
      cases ds <;> cases between <;> rfl
    exact ⟨opensTagHead same ▸ kept.1, ih kept.2⟩

theorem expandPieces {pieces : List Piece} {c : Char} (kept : LiteralsKept [c] pieces)
    (named : ∀ p ∈ pieces.filterMap Piece.slot?, solid p = true) (rest : List Char) :
    expandFrom value .outside (pieces.flatMap Piece.written ++ c :: rest) =
      (String.join (pieces.map (Piece.replaced value))).toList ++
        expandFrom value .outside (c :: rest) := by
  induction pieces with
  | nil => rfl
  | cons piece pieces ih =>
    rw [List.flatMap_cons, List.append_assoc, List.map_cons, String.join_cons,
      String.toList_append, List.append_assoc]
    cases piece with
    | text literal =>
      rw [Piece.written, literalKept value (keptFurther kept.1 rest), ih kept.2 named]
      rfl
    | slot placeholder =>
      simp only [List.filterMap_cons, Piece.slot?, List.forall_mem_cons] at named
      rw [tagReplaced value named.1, ih kept named.2]
      rfl

/- A line at a time: the line break between them is no part of a tag. -/
theorem expandLines {ls : List Line} (kept : ∀ l ∈ ls, l.Kept)
    (named : ∀ p ∈ (ls.flatMap Line.pieces).filterMap Piece.slot?, solid p = true) :
    expandFrom value .outside ((ls.flatMap Line.pieces).flatMap Piece.written) =
      (String.join ((ls.flatMap Line.pieces).map (Piece.replaced value))).toList := by
  induction ls with
  | nil => rfl
  | cons l ls ih =>
    rw [List.forall_mem_cons] at kept
    simp only [List.flatMap_cons, List.filterMap_append, List.forall_mem_append] at named
    rw [List.flatMap_cons, List.flatMap_append, List.map_append, String.join_append,
      String.toList_append, ← ih kept.2 named.2]
    cases l with
    | ended pieces =>
      have own : ∀ p ∈ pieces.filterMap Piece.slot?, solid p = true := by
        simpa [Line.pieces, Piece.slot?] using named.1
      have read := expandPieces value kept.1 own ((ls.flatMap Line.pieces).flatMap Piece.written)
      rw [outsideKept value rfl] at read
      simpa [Line.pieces, Piece.written, Piece.replaced, String.join_append, String.join_cons]
        using read
    | block placeholder =>
      have own : solid placeholder = true := by simpa [Line.pieces, Piece.slot?] using named.1
      simpa [Line.pieces, Piece.replaced, String.join_cons] using tagReplaced value own _

theorem Kind.expanded (k : Kind) :
    expand value k.written = String.join (k.pieces.map (Piece.replaced value)) := by
  have named : ∀ p ∈ k.pieces.filterMap Piece.slot?, solid p = true :=
    fun p slot => k.placeholdersSolid p ((k.slotsArePlaceholders p).mp slot)
  rw [expand, Kind.written, String.toList_ofList, Kind.pieces,
    expandLines value k.literalsKept named, String.ofList_toList]

end

/- Every template ends with a line break. -/
theorem Kind.endsLine (k : Kind) : ∃ front, k.pieces = front ++ [.text "\n"] := by
  have last : k.pieces.getLast? = some (.text "\n") := by cases k <;> rfl
  exact List.getLast?_eq_some_iff.mp last

end DoubleDispatch.Template
