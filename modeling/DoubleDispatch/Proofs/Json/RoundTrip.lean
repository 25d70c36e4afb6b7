import DoubleDispatch.Proofs.Json.Scalars

/-! Written documents are read back, in both layouts and whatever numbers mean, as long as the whole
numbers in them mean themselves. Documents with other numbers or with moments are left out: what is
written for them is something else. -/
namespace DoubleDispatch.Json
open Decimal (digits signedText)

/- Documents that are read back with so many lists and tables open inside each other. -/
inductive Plain (meaning : Meaning) : Nat → Document → Prop where
  | null {room : Nat} : Plain meaning room .null
  | boolean {room : Nat} (b : Bool) : Plain meaning room (.boolean b)
  | integer {room : Nat} {n : Int}
      (itself : meaning (n < 0) (digits n.natAbs) [] none = some (.integer n)) :
      Plain meaning room (.integer n)
  | string {room : Nat} (s : String) : Plain meaning room (.string s)
  | list {room : Nat} {items : List Document} (each : ∀ d ∈ items, Plain meaning room d) :
      Plain meaning (room + 1) (.list items)
  | table {room : Nat} {entries : List Entry} (distinct : (entries.map Prod.fst).Nodup)
      (each : ∀ entry ∈ entries, Plain meaning room entry.2) :
      Plain meaning (room + 1) (.table entries)

def Blanks (cs : List Char) : Prop := ∀ c ∈ cs, isBlank c = true

theorem gapBlanks (layout : Layout) (depth : Nat) : Blanks (layout.gap depth) := by
  cases layout with
  | compact => simp [Blanks, Layout.gap]
  | indented => simp [Blanks, Layout.gap, isBlank]

theorem colonBlanks (layout : Layout) : ∃ blanks, layout.colon = ':' :: blanks ∧ Blanks blanks := by
  cases layout with
  | compact => exact ⟨[], rfl, by simp [Blanks]⟩
  | indented => exact ⟨[' '], rfl, by simp [Blanks, isBlank]⟩

theorem skipThrough {blanks : List Char} (blank : Blanks blanks) (cs : List Char) :
    skipBlanks (blanks ++ cs) = skipBlanks cs := by
  rw [skipBlanks, List.dropWhile_append_of_pos blank, skipBlanks]

theorem skipStart {c : Char} (seen : isBlank c = false) (cs : List Char) :
    skipBlanks (c :: cs) = c :: cs := by
  simp [skipBlanks, seen]

theorem digitOther {c x : Char} (digit : c.isDigit = true) (other : x.isDigit = false) : c ≠ x := by
  rintro rfl
  rw [digit] at other
  contradiction

theorem digitSeen {c : Char} (digit : c.isDigit = true) : isBlank c = false := by
  simp [isBlank, digitOther digit (x := ' ') rfl, digitOther digit (x := '\n') rfl,
    digitOther digit (x := '\r') rfl, digitOther digit (x := '\t') rfl]

theorem digitsStart (n : Nat) : ∃ c cs, digits n = c :: cs ∧ c.isDigit = true := by
  cases whole : digits n with
  | nil => exact absurd whole (Decimal.digitsNonempty n)
  | cons c cs => exact ⟨c, cs, rfl, Decimal.digitsAreDigits n c (by simp [whole])⟩

section
variable {meaning : Meaning} (layout : Layout)

theorem readValueThrough {blanks : List Char} (blank : Blanks blanks) (bound room : Nat)
    (cs : List Char) :
    readValue meaning bound room (blanks ++ cs) = readValue meaning bound room cs := by
  cases bound with
  | zero => rfl
  | succ bound => simp only [readValue.eq_def meaning (bound + 1), skipThrough blank]

theorem readItemsThrough {blanks : List Char} (blank : Blanks blanks) (bound room : Nat)
    (done : List Document) (cs : List Char) :
    readItems meaning bound room done (blanks ++ cs) = readItems meaning bound room done cs := by
  cases bound with
  | zero => rfl
  | succ bound => simp only [readItems.eq_def meaning (bound + 1), readValueThrough blank]

theorem readEntriesThrough {blanks : List Char} (blank : Blanks blanks) (bound room : Nat)
    (done : List Entry) (cs : List Char) :
    readEntries meaning bound room done (blanks ++ cs) =
      readEntries meaning bound room done cs := by
  cases bound with
  | zero => rfl
  | succ bound => simp only [readEntries.eq_def meaning (bound + 1), skipThrough blank]

theorem readValueDigit {c : Char} (digit : c.isDigit = true) (bound room : Nat) (cs : List Char) :
    readValue meaning (bound + 1) room (c :: cs) = readMagnitude meaning false (c :: cs) := by
  simp [readValue, skipStart (digitSeen digit), digitOther digit (x := '"') rfl,
    digitOther digit (x := '[') rfl, digitOther digit (x := '{') rfl,
    digitOther digit (x := 't') rfl, digitOther digit (x := 'f') rfl,
    digitOther digit (x := 'n') rfl, digitOther digit (x := '-') rfl]

/- How a value starts: neither with a blank nor with what closes a list. -/
theorem writeStart {room : Nat} {d : Document} (plain : Plain meaning room d) (depth : Nat) :
    ∃ c cs, write layout depth d = c :: cs ∧ isBlank c = false ∧ c ≠ ']' := by
  cases plain with
  | null => exact ⟨_, _, by rw [write], by decide, by decide⟩
  | boolean b => cases b <;> exact ⟨_, _, by rw [write], by decide, by decide⟩
  | @integer _ n itself =>
    obtain ⟨c, cs, start, digit⟩ := digitsStart n.natAbs
    by_cases negative : n < 0
    · exact ⟨'-', digits n.natAbs, by simp [write, signedText, negative, Decimal.text], by decide,
        by decide⟩
    · exact ⟨c, cs, by simp [write, signedText, negative, Decimal.text, start], digitSeen digit,
        digitOther digit rfl⟩
  | string s => exact ⟨_, _, by rw [write, quoted], by decide, by decide⟩
  | @list _ items each => cases items <;> exact ⟨_, _, by rw [write], by decide, by decide⟩
  | @table _ entries distinct each =>
    cases entries <;> exact ⟨_, _, by rw [write], by decide, by decide⟩

def Reads (meaning : Meaning) (layout : Layout) (room : Nat) (d : Document) : Prop :=
  ∀ depth bound rest, (write layout depth d).length ≤ bound → EndsNumber rest →
    readValue meaning bound room (write layout depth d ++ rest) = some (d, rest)

theorem integerReads {room : Nat} {n : Int}
    (itself : meaning (n < 0) (digits n.natAbs) [] none = some (.integer n)) :
    Reads meaning layout room (.integer n) := by
  intro depth bound rest enough ends
  obtain ⟨c, cs, start, digit⟩ := digitsStart n.natAbs
  by_cases negative : n < 0
  · have text : write layout depth (.integer n) = '-' :: digits n.natAbs := by
      simp [write, signedText, negative, Decimal.text]
    simp only [negative, decide_true] at itself
    rw [text] at enough ⊢
    cases bound with
    | zero => simp at enough
    | succ bound =>
      have read := readMagnitudeDigits itself ends
      simpa [readValue, skipStart (c := '-') (by decide)] using read
  · have text : write layout depth (.integer n) = digits n.natAbs := by
      simp [write, signedText, negative, Decimal.text]
    simp only [negative, decide_false] at itself
    rw [text] at enough ⊢
    cases bound with
    | zero => simp [start] at enough
    | succ bound =>
      have read := readMagnitudeDigits itself ends
      rw [start, List.cons_append] at read ⊢
      rw [readValueDigit digit, read]

theorem endsNumberGap {c : Char} (other : c.isDigit = false ∧ c ≠ '.' ∧ c ≠ 'e' ∧ c ≠ 'E')
    (depth : Nat) (rest : List Char) : EndsNumber (layout.gap depth ++ c :: rest) := by
  cases layout with
  | compact => exact endsNumberCons other
  | indented => exact endsNumberCons (by decide)

theorem itemsRead {room : Nat} {item : Document} {rest : List Document}
    (each : ∀ d ∈ item :: rest, Reads meaning layout room d) (depth close bound : Nat)
    (done : List Document) (tail : List Char)
    (enough : (write layout depth item ++ writeItems layout depth rest).length < bound) :
    readItems meaning bound room done (write layout depth item ++
        (writeItems layout depth rest ++ (layout.gap close ++ ']' :: tail))) =
      some (.list (done.reverse ++ item :: rest), tail) := by
  induction rest generalizing item bound done with
  | nil =>
    cases bound with
    | zero => simp at enough
    | succ bound =>
      have short : (write layout depth item).length ≤ bound := by
        simp [writeItems] at enough
        omega
      have first := each item (by simp) depth bound (layout.gap close ++ ']' :: tail) short
        (endsNumberGap layout (by decide) close tail)
      have closed := skipThrough (gapBlanks layout close) (']' :: tail)
      rw [skipStart (by decide)] at closed
      simp [readItems, writeItems, first, closed]
  | cons next rest ih =>
    cases bound with
    | zero => simp at enough
    | succ bound =>
      simp only [writeItems, List.length_append, List.length_cons] at enough
      have short : (write layout depth item).length ≤ bound := by omega
      have first := each item (by simp) depth bound
        (writeItems layout depth (next :: rest) ++ (layout.gap close ++ ']' :: tail)) short
        (endsNumberCons (by decide))
      have later : ∀ d ∈ next :: rest, Reads meaning layout room d :=
        fun d member => each d (List.mem_cons_of_mem item member)
      have others := ih later bound (item :: done) (by simp only [List.length_append]; omega)
      rw [readItems, first]
      simp only [writeItems, List.cons_append, skipStart (c := ',') (by decide)]
      simpa [List.append_assoc, readItemsThrough (gapBlanks layout depth)] using others

theorem setFresh {done : List Entry} {name : String} (fresh : name ∉ done.map Prod.fst)
    (value : Document) : setEntry done name value = done ++ [(name, value)] := by
  have absent : done.any (fun entry => entry.1 == name) = false := by
    rw [List.any_eq_false]
    intro entry member same
    exact fresh (List.mem_map.mpr ⟨entry, member, eq_of_beq same⟩)
  rw [setEntry, absent]
  rfl

/- What the reader does behind the value of an entry. -/
def entriesAfter (meaning : Meaning) (bound room : Nat) (done : List Entry) :
    List Char → Option (Document × List Char)
  | ',' :: rest => readEntries meaning bound room done rest
  | '}' :: rest => some (.table done, rest)
  | _ => none

theorem entryRead {room : Nat} {name : String} {value : Document}
    (reads : Reads meaning layout room value) (depth bound : Nat) {done : List Entry}
    (fresh : name ∉ done.map Prod.fst) (rest : List Char)
    (enough : (write layout depth value).length ≤ bound) (ends : EndsNumber rest) :
    readEntries meaning (bound + 1) room done
        (quoted name ++ (layout.colon ++ (write layout depth value ++ rest))) =
      entriesAfter meaning bound room (done ++ [(name, value)]) (skipBlanks rest) := by
  obtain ⟨blanks, colon, blank⟩ := colonBlanks layout
  obtain ⟨cs, text, read⟩ :=
    readQuoted name (layout.colon ++ (write layout depth value ++ rest))
  have inside := reads depth bound rest enough ends
  rw [text, readEntries, skipStart (by decide)]
  simp only [read, colon, List.cons_append, skipStart (c := ':') (by decide),
    readValueThrough blank, inside, setFresh fresh]
  rfl

theorem freshName {done rest : List Entry} {name : String} {value : Document}
    (distinct : ((done ++ (name, value) :: rest).map Prod.fst).Nodup) :
    name ∉ done.map Prod.fst := by
  rw [List.map_append, List.nodup_append] at distinct
  exact fun member => distinct.2.2 name member name (by simp) rfl

theorem entriesRead {room : Nat} {name : String} {value : Document} {rest : List Entry}
    (each : ∀ entry ∈ (name, value) :: rest, Reads meaning layout room entry.2)
    (depth close bound : Nat) (done : List Entry)
    (distinct : ((done ++ (name, value) :: rest).map Prod.fst).Nodup) (tail : List Char)
    (enough : (write layout depth value ++ writeEntries layout depth rest).length < bound) :
    readEntries meaning bound room done (quoted name ++ (layout.colon ++
        (write layout depth value ++
          (writeEntries layout depth rest ++ (layout.gap close ++ '}' :: tail))))) =
      some (.table (done ++ (name, value) :: rest), tail) := by
  induction rest generalizing name value bound done with
  | nil =>
    have first : Reads meaning layout room value := each (name, value) (by simp)
    have fresh := freshName distinct
    cases bound with
    | zero => simp at enough
    | succ bound =>
      have short : (write layout depth value).length ≤ bound := by
        simp [writeEntries] at enough
        omega
      have closed := skipThrough (gapBlanks layout close) ('}' :: tail)
      rw [skipStart (by decide)] at closed
      have ends := endsNumberGap layout (c := '}') (by decide) close tail
      rw [writeEntries, List.nil_append, entryRead layout first depth bound fresh _ short ends,
        closed]
      rfl
  | cons next rest ih =>
    obtain ⟨nextName, nextValue⟩ := next
    have first : Reads meaning layout room value := each (name, value) (by simp)
    have fresh := freshName distinct
    cases bound with
    | zero => simp at enough
    | succ bound =>
      simp only [writeEntries, List.length_append, List.length_cons] at enough
      have later : ∀ entry ∈ (nextName, nextValue) :: rest,
          Reads meaning layout room entry.2 :=
        fun entry member => each entry (List.mem_cons_of_mem _ member)
      have others := ih later bound (done ++ [(name, value)]) (by simpa using distinct)
        (by simp only [List.length_append]; omega)
      have ends : EndsNumber (writeEntries layout depth ((nextName, nextValue) :: rest) ++
          (layout.gap close ++ '}' :: tail)) := endsNumberCons (by decide)
      rw [entryRead layout first depth bound fresh _ (by omega) ends, writeEntries,
        List.cons_append, skipStart (by decide), entriesAfter]
      simpa [List.append_assoc, readEntriesThrough (gapBlanks layout depth)] using others

theorem readOpenedList (meaning : Meaning) {blanks : List Char} (blank : Blanks blanks) {c : Char}
    (seen : isBlank c = false) (inside : c ≠ ']') (bound room : Nat) (cs : List Char) :
    readValue meaning (bound + 1) (room + 1) ('[' :: (blanks ++ c :: cs)) =
      readItems meaning bound room [] (c :: cs) := by
  simp [readValue, skipStart (c := '[') (by decide), skipThrough blank, skipStart seen, inside]

theorem readOpenedTable (meaning : Meaning) {blanks : List Char} (blank : Blanks blanks)
    (bound room : Nat) (cs : List Char) :
    readValue meaning (bound + 1) (room + 1) ('{' :: (blanks ++ '"' :: cs)) =
      readEntries meaning bound room [] ('"' :: cs) := by
  simp [readValue, skipStart (c := '{') (by decide), skipThrough blank,
    skipStart (c := '"') (by decide)]

theorem Plain.reads {room : Nat} {d : Document} (plain : Plain meaning room d) :
    Reads meaning layout room d := by
  induction plain with
  | null =>
    intro depth bound rest enough ends
    cases bound with
    | zero => simp [write] at enough
    | succ bound => simp [write, readValue, skipStart, isBlank, expect]
  | boolean b =>
    intro depth bound rest enough ends
    cases bound with
    | zero => cases b <;> simp [write] at enough
    | succ bound => cases b <;> simp [write, readValue, skipStart, isBlank, expect]
  | integer itself => exact integerReads layout itself
  | string s =>
    intro depth bound rest enough ends
    obtain ⟨cs, text, read⟩ := readQuoted s rest
    cases bound with
    | zero => simp [write, quoted] at enough
    | succ bound => simp [write, text, readValue, skipStart, isBlank, read]
  | @list room items each ih =>
    intro depth bound rest enough ends
    cases bound with
    | zero => cases items <;> simp [write] at enough
    | succ bound =>
      cases items with
      | nil => simp [write, readValue, skipStart, isBlank]
      | cons item others =>
        obtain ⟨c, cs, start, seen, inside⟩ := writeStart layout (each item (by simp)) (depth + 1)
        simp only [write, List.length_cons, List.length_append] at enough
        have read := itemsRead layout ih (depth + 1) depth bound [] rest
          (by simp only [List.length_append]; omega)
        have opened := readOpenedList meaning (gapBlanks layout (depth + 1)) seen inside
          bound room (cs ++ (writeItems layout (depth + 1) others ++
            (layout.gap depth ++ ']' :: rest)))
        rw [start] at read
        simpa [write, start, List.append_assoc] using opened.trans read
  | @table room entries distinct each ih =>
    intro depth bound rest enough ends
    cases bound with
    | zero => cases entries <;> simp [write] at enough
    | succ bound =>
      cases entries with
      | nil => simp [write, readValue, skipStart, isBlank]
      | cons entry others =>
        obtain ⟨name, value⟩ := entry
        simp only [write, List.length_cons, List.length_append] at enough
        have read := entriesRead layout ih (depth + 1) depth bound [] distinct rest
          (by simp only [List.length_append]; omega)
        obtain ⟨cs, start, _⟩ := readQuoted name (layout.colon ++ (write layout (depth + 1) value ++
          (writeEntries layout (depth + 1) others ++ (layout.gap depth ++ '}' :: rest))))
        have opened := readOpenedTable meaning (gapBlanks layout (depth + 1)) bound room cs
        rw [start] at read
        simpa [write, start, List.append_assoc] using opened.trans read

end

theorem parseWritten {meaning : Meaning} {d : Document} (plain : Plain meaning depthLimit d)
    (layout : Layout) {blanks : List Char} (blank : Blanks blanks) :
    parseAs meaning (String.ofList (write layout 0 d ++ blanks)) = some d := by
  have ends : EndsNumber blanks := by
    intro c found
    have seen := blank c (List.mem_of_mem_head? found)
    simp only [isBlank, Bool.or_eq_true, beq_iff_eq] at seen
    rcases seen with ((rfl | rfl) | rfl) | rfl <;> decide
  have read := plain.reads layout 0 ((write layout 0 d ++ blanks).length + 1) blanks
    (by simp only [List.length_append]; omega) ends
  have nothing : skipBlanks blanks = [] := by
    have skipped := skipThrough blank []
    rwa [List.append_nil] at skipped
  simp only [parseAs, String.toList_ofList, read, nothing, if_true]

theorem parsePretty {meaning : Meaning} {d : Document} (plain : Plain meaning depthLimit d) :
    parseAs meaning (pretty d ++ "\n") = some d := by
  have blank : Blanks ['\n'] := by simp [Blanks, isBlank]
  have parsed := parseWritten plain .indented blank
  rwa [String.ofList_append] at parsed

end DoubleDispatch.Json
