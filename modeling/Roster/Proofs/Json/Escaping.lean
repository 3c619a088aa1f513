import Mathlib.Data.List.Forall2
import Roster.Merged.Written
import Roster.Proofs.Json.Numbers
import Roster.Proofs.Json.Strings
import Roster.Text.Utf8

/-!
# The ASCII form escapes the plain form

The two forms of a value have the same layout. They differ in the fragments of strings only, and
there character by character.

* `Piece` is what a written value is put together from: line ends, marks and string literals.
* `asciiForm` is what stands in the ASCII form for a character of the plain form.

**Theorem (`Value.write_eq_pieces`).** Both forms write the same pieces, one after the other.

**Theorem (`ascii_escapes_pretty`).** The ASCII form is the plain form with every character that is
neither a line feed nor printable ASCII written as escapes. Its line feeds are those of the layout,
and it does not matter where strings are cut into fragments.

The only induction over values is the one that finds the pieces. All else is said of one piece and
holds of the text because it is put together from pieces.
-/

namespace Roster.Json

/-! ## Characters -/

/-- What stands in the ASCII form for a character of the plain form. -/
def asciiForm (c : Char) : Text := if c = '\n' ∨ ' ' ≤ c ∧ c ≤ '~' then [c] else escapeUnits c

/-- The text is the escape of a UTF-16 code unit: four hexadecimal digits in lower case. -/
def EscapesUnit (unit : Nat) (t : Text) : Prop :=
  ∃ digits : Text, t = '\\' :: 'u' :: digits ∧ digits.length = 4 ∧
    (∀ d ∈ digits, d ∈ "0123456789abcdef".toList) ∧ Text.natOfHexDigits digits = unit

/-- The text is the escapes of the UTF-16 code units of a character: of one unit, or of a high and a
low surrogate. -/
inductive EscapesChar (c : Char) : Text → Prop where
  | single {t : Text} (hc : c.toNat ≤ 0xFFFF) (ht : EscapesUnit c.toNat t) : EscapesChar c t
  | pair {high low : Nat} {t t' : Text} (hhigh : 0xD800 ≤ high ∧ high ≤ 0xDBFF)
      (hlow : 0xDC00 ≤ low ∧ low ≤ 0xDFFF)
      (hc : c.toNat = 0x10000 + 0x400 * (high - 0xD800) + (low - 0xDC00))
      (ht : EscapesUnit high t) (ht' : EscapesUnit low t') : EscapesChar c (t ++ t')

theorem hexDigit_mem {d : Nat} (hd : d < 16) :
    Text.hexDigit d ∈ "0123456789abcdef".toList := by
  have hall : ∀ d : Fin 16, Text.hexDigit d ∈ "0123456789abcdef".toList := by decide
  exact hall ⟨d, hd⟩

theorem escapesUnit_unitEscape {unit : Nat} (h : unit < 0x10000) :
    EscapesUnit unit (unitEscape unit) := by
  refine ⟨unitDigits unit, rfl, rfl, fun d hd => ?_, ?_⟩
  · simp only [unitDigits, List.mem_cons, List.not_mem_nil, or_false] at hd
    rcases hd with rfl | rfl | rfl | rfl
    all_goals exact hexDigit_mem (Nat.mod_lt _ (by decide))
  · simp only [Text.natOfHexDigits, unitDigits, List.foldl_cons, List.foldl_nil,
      hexValue?_hexDigit (Nat.mod_lt _ (by decide : 0 < 16)), Option.getD_some]
    omega

/-- A character is escaped by its code units. -/
theorem escapesChar_escapeUnits (c : Char) : EscapesChar c (escapeUnits c) := by
  have hvalid := toNat_valid c
  by_cases hc : c.toNat < 0x10000
  · have hunits : escapeUnits c = unitEscape c.toNat := by simp [escapeUnits, units, hc]
    rw [hunits]
    exact .single (by omega) (escapesUnit_unitEscape hc)
  · have hunits : escapeUnits c = unitEscape (0xD800 + (c.toNat - 0x10000) / 0x400) ++
        unitEscape (0xDC00 + (c.toNat - 0x10000) % 0x400) := by simp [escapeUnits, units, hc]
    rw [hunits]
    refine .pair ?_ ?_ ?_ (escapesUnit_unitEscape ?_) (escapesUnit_unitEscape ?_)
    all_goals omega

/-! ## Printable texts -/

theorem isPrintableAscii_iff {c : Char} : isPrintableAscii c = true ↔ ' ' ≤ c ∧ c ≤ '~' := by
  simp [isPrintableAscii]

theorem ne_newline_of_printable {c : Char} (h : isPrintableAscii c = true) : c ≠ '\n' := by
  rintro rfl
  exact nomatch h

theorem asciiForm_printable {c : Char} (h : isPrintableAscii c = true) : asciiForm c = [c] :=
  if_pos (.inr (isPrintableAscii_iff.1 h))

/-- Printable text stays as it is. -/
theorem flatMap_asciiForm_printable {t : Text} (h : t.all isPrintableAscii = true) :
    t.flatMap asciiForm = t := by
  have hsame : ∀ c ∈ t, asciiForm c = [c] := fun c hc =>
    asciiForm_printable (List.all_eq_true.1 h c hc)
  rw [List.flatMap_congr hsame, List.flatMap_singleton']

theorem unitEscape_printable (unit : Nat) : (unitEscape unit).all isPrintableAscii = true := by
  have hall : ∀ d : Fin 16, isPrintableAscii (Text.hexDigit d) = true := by decide
  have hdigit : ∀ n, isPrintableAscii (Text.hexDigit (n % 16)) = true := fun n =>
    hall ⟨n % 16, Nat.mod_lt _ (by decide)⟩
  simp only [unitEscape, unitDigits, List.all_cons, List.all_nil, hdigit, Bool.and_true]
  decide

theorem escapeUnits_printable (c : Char) : (escapeUnits c).all isPrintableAscii = true := by
  rw [escapeUnits, List.all_flatMap]
  simp [unitEscape_printable]

theorem demanded_printable {c : Char} {escape : Text} (h : demanded? c = some escape) :
    escape.all isPrintableAscii = true := by
  rw [demanded?] at h
  split_ifs at h
  all_goals obtain rfl := Option.some.inj h
  rotate_right
  · exact unitEscape_printable _
  all_goals decide

theorem asciiChar_printable (c : Char) : (asciiChar c).all isPrintableAscii = true := by
  unfold asciiChar
  cases hc : demanded? c with
  | some escape => exact demanded_printable hc
  | none =>
    by_cases hprint : isPrintableAscii c = true
    · simp [hprint]
    · simpa [hprint] using escapeUnits_printable c

/-- The plain form of a character of a string is escaped to its ASCII form. -/
theorem flatMap_plainChar (c : Char) : (plainChar c).flatMap asciiForm = asciiChar c := by
  unfold plainChar asciiChar
  cases hc : demanded? c with
  | some escape => exact flatMap_asciiForm_printable (demanded_printable hc)
  | none =>
    have hnewline : c ≠ '\n' := by
      rintro rfl
      exact nomatch hc
    simp [asciiForm, hnewline, isPrintableAscii]

/-! ## Numbers -/

theorem ofNat_printable (n : Nat) : (Text.ofNat n).all isPrintableAscii = true := by
  refine List.all_eq_true.2 fun c hc => ?_
  have hdigit := isDigit_of_mem_ofNat hc
  simp only [Text.isDigit, Bool.and_eq_true, decide_eq_true_eq] at hdigit
  rw [isPrintableAscii_iff]
  exact ⟨Char.le_trans (by decide) hdigit.1, Char.le_trans hdigit.2 (by decide)⟩

theorem ofInt_printable (n : Int) : (Text.ofInt n).all isPrintableAscii = true := by
  cases n with
  | ofNat n => exact ofNat_printable n
  | negSucc n =>
    rw [Text.ofInt, List.all_cons, ofNat_printable]
    rfl

theorem exponentText_printable (e : Int) :
    (Double.exponentText e).all isPrintableAscii = true := by
  unfold Double.exponentText
  split_ifs
  · simp [ofInt_printable, isPrintableAscii]
  · simp [ofInt_printable, isPrintableAscii]

/-- The digits of a number with a point among them, zeros around them or an exponent behind. -/
theorem write_printable (digits : Nat) (exponent : Int) :
    (Double.write digits exponent).all isPrintableAscii = true := by
  have hd := ofNat_printable digits
  have hzeros : ∀ n, (List.replicate n '0').all isPrintableAscii = true := by
    intro n
    rw [List.all_replicate]
    simp [isPrintableAscii]
  have htake : ∀ n, ((Text.ofNat digits).take n).all isPrintableAscii = true := fun n =>
    List.all_eq_true.2 fun c hc => List.all_eq_true.1 hd c (List.mem_of_mem_take hc)
  have hdrop : ∀ n, ((Text.ofNat digits).drop n).all isPrintableAscii = true := fun n =>
    List.all_eq_true.2 fun c hc => List.all_eq_true.1 hd c (List.mem_of_mem_drop hc)
  unfold Double.write
  dsimp only
  split_ifs
  · rw [List.all_append, List.all_append, hd, hzeros]
    decide
  · rw [List.all_append, List.all_cons, htake, hdrop]
    decide
  · rw [List.all_append, List.all_append, hd, hzeros]
    decide
  · split
    · next only honly =>
      rw [honly] at hd
      simpa [exponentText_printable] using hd
    · next first rest _ hdigits =>
      rw [hdigits] at hd
      simp only [List.all_cons, Bool.and_eq_true] at hd
      simp only [List.all_cons, List.all_append, hd, exponentText_printable, Bool.and_true,
        Bool.true_and]
      decide
    · rfl

theorem double_printable (x : Double) : x.toText.all isPrintableAscii = true := by
  unfold Double.toText
  dsimp only
  have hmagnitude : (if x.units = 0 then "0.0".toList
      else Double.write (Double.shortest x.units).1 (Double.shortest x.units).2).all
        isPrintableAscii = true := by
    by_cases hzero : x.units = 0
    · rw [if_pos hzero]
      decide
    · rw [if_neg hzero]
      exact write_printable _ _
  by_cases hnegative : x.negative = true
  · rw [if_pos hnegative, List.all_cons, hmagnitude]
    decide
  · rw [if_neg hnegative, hmagnitude]

theorem number_printable (n : Number) : n.toText.all isPrintableAscii = true := by
  cases n with
  | whole n => exact ofInt_printable n
  | double x => exact double_printable x

/-! ## Pieces -/

/-- A piece of a written value. -/
inductive Piece where
  /-- A line end with the indentation of the next line. -/
  | lineEnd (level : Nat)
  /-- A bracket, a comma, a colon, a word or a number. -/
  | mark (t : Text) (printable : t.all isPrintableAscii = true)
  /-- A string literal. -/
  | literal (t : Text)

/-- The text of a piece; the fragments of strings are written by `fragment`. -/
@[simp] def Piece.write (fragment : Text → Text) : Piece → Text
  | .lineEnd level => newLine level
  | .mark t _ => t
  | .literal t => quote fragment t

mutual

/-- The pieces of a value at a level of indentation. -/
def Value.pieces (level : Nat) : Value → List Piece
  | .null => [.mark "null".toList (by decide)]
  | .bool true => [.mark "true".toList (by decide)]
  | .bool false => [.mark "false".toList (by decide)]
  | .number n => [.mark n.toText (number_printable n)]
  | .text t => [.literal t]
  | .array [] => [.mark "[]".toList (by decide)]
  | .array (item :: items) =>
    .mark ['['] rfl :: .lineEnd (level + 1) :: item.pieces (level + 1) ++
      itemPieces (level + 1) items ++ [.lineEnd level, .mark [']'] rfl]
  | .object [] => [.mark "\x7b\x7d".toList (by decide)]
  | .object ((key, value) :: members) =>
    .mark ['{'] rfl :: .lineEnd (level + 1) :: .literal key :: .mark ": ".toList (by decide) ::
      value.pieces (level + 1) ++ memberPieces (level + 1) members ++
      [.lineEnd level, .mark ['}'] rfl]

/-- The pieces of the items behind the first one. -/
def itemPieces (level : Nat) : List Value → List Piece
  | [] => []
  | item :: items =>
    .mark [','] rfl :: .lineEnd level :: item.pieces level ++ itemPieces level items

/-- The pieces of the members behind the first one. -/
def memberPieces (level : Nat) : List (Text × Value) → List Piece
  | [] => []
  | (key, value) :: members =>
    .mark [','] rfl :: .lineEnd level :: .literal key :: .mark ": ".toList (by decide) ::
      value.pieces level ++ memberPieces level members

end

/-- Pieces that stand one after the other. -/
def putTogether (fragment : Text → Text) (ps : List Piece) : Text :=
  ps.flatMap (Piece.write fragment)

@[simp] theorem putTogether_nil (fragment : Text → Text) : putTogether fragment [] = [] := rfl

@[simp] theorem putTogether_cons (fragment : Text → Text) (p : Piece) (ps : List Piece) :
    putTogether fragment (p :: ps) = p.write fragment ++ putTogether fragment ps :=
  List.flatMap_cons

@[simp] theorem putTogether_append (fragment : Text → Text) (ps ps' : List Piece) :
    putTogether fragment (ps ++ ps') = putTogether fragment ps ++ putTogether fragment ps' :=
  List.flatMap_append

mutual

/-- **A value is written piece by piece.** -/
theorem Value.write_eq_pieces (fragment : Text → Text) (level : Nat) :
    (v : Value) → v.write fragment level = putTogether fragment (v.pieces level)
  | .null => by simp [Value.write, Value.pieces]
  | .bool true => by simp [Value.write, Value.pieces]
  | .bool false => by simp [Value.write, Value.pieces]
  | .number n => by simp [Value.write, Value.pieces]
  | .text t => by simp [Value.write, Value.pieces]
  | .array [] => by simp [Value.write, Value.pieces]
  | .array (item :: items) => by
    have hitem := Value.write_eq_pieces fragment (level + 1) item
    have hitems := writeItems_eq_pieces fragment (level + 1) items
    simp [Value.write, Value.pieces, hitem, hitems]
  | .object [] => by simp [Value.write, Value.pieces]
  | .object ((key, value) :: members) => by
    have hvalue := Value.write_eq_pieces fragment (level + 1) value
    have hmembers := writeMembers_eq_pieces fragment (level + 1) members
    simp [Value.write, Value.pieces, hvalue, hmembers]

theorem writeItems_eq_pieces (fragment : Text → Text) (level : Nat) :
    (items : List Value) →
      writeItems fragment level items = putTogether fragment (itemPieces level items)
  | [] => by simp [writeItems, itemPieces]
  | item :: items => by
    have hitem := Value.write_eq_pieces fragment level item
    have hitems := writeItems_eq_pieces fragment level items
    simp [writeItems, itemPieces, hitem, hitems]

theorem writeMembers_eq_pieces (fragment : Text → Text) (level : Nat) :
    (members : List (Text × Value)) →
      writeMembers fragment level members = putTogether fragment (memberPieces level members)
  | [] => by simp [writeMembers, memberPieces]
  | (key, value) :: members => by
    have hvalue := Value.write_eq_pieces fragment level value
    have hmembers := writeMembers_eq_pieces fragment level members
    simp [writeMembers, memberPieces, hvalue, hmembers]

end

/-! ## Escaping a piece -/

/-- A piece in ASCII form. -/
abbrev Piece.ascii (p : Piece) : Text := p.write (asciiFragment [])

theorem newLine_eq (level : Nat) : newLine level = '\n' :: List.replicate (2 * level) ' ' := rfl

/-- **A piece in ASCII form is the plain piece with its characters escaped.** -/
theorem Piece.ascii_eq (p : Piece) : p.ascii = (p.write id).flatMap asciiForm := by
  cases p with
  | lineEnd level =>
    have hspaces : (List.replicate (2 * level) ' ').all isPrintableAscii = true := by
      rw [List.all_replicate]
      simp [isPrintableAscii]
    show newLine level = (newLine level).flatMap asciiForm
    rw [newLine_eq, List.flatMap_cons, flatMap_asciiForm_printable hspaces]
    rfl
  | mark t printable => exact (flatMap_asciiForm_printable printable).symm
  | literal t =>
    show quote (asciiFragment []) t = (quote id t).flatMap asciiForm
    rw [quote_asciiFragment, quote_id, Json.literal, Json.literal, List.flatMap_append,
      List.flatMap_cons, List.flatMap_assoc, List.flatMap_congr fun c _ => flatMap_plainChar c]
    rfl

theorem quote_printable (t : Text) :
    (quote (asciiFragment []) t).all isPrintableAscii = true := by
  rw [quote_asciiFragment, literal, List.cons_append, List.all_cons, List.all_append,
    List.all_flatMap]
  simp [asciiChar_printable, isPrintableAscii]

/-- A line feed stands in a line end and in no other piece. -/
theorem Piece.newline_mem_iff (p : Piece) : '\n' ∈ p.ascii ↔ ∃ level, p = .lineEnd level := by
  have hprintable : ∀ t : Text, t.all isPrintableAscii = true → '\n' ∉ t := fun t ht hmem =>
    ne_newline_of_printable (List.all_eq_true.1 ht _ hmem) rfl
  cases p with
  | lineEnd level => exact iff_of_true List.mem_cons_self ⟨level, rfl⟩
  | mark t printable => exact iff_of_false (hprintable t printable) fun ⟨_, h⟩ => nomatch h
  | literal t => exact iff_of_false (hprintable _ (quote_printable t)) fun ⟨_, h⟩ => nomatch h

theorem Piece.printable_of_mem {p : Piece} {c : Char} (h : c ∈ p.ascii) :
    c = '\n' ∨ isPrintableAscii c = true := by
  cases p with
  | lineEnd level =>
    rcases List.mem_cons.1 h with hc | hc
    · exact .inl hc
    · rw [List.eq_of_mem_replicate hc]
      exact .inr rfl
  | mark t printable => exact .inr (List.all_eq_true.1 printable c h)
  | literal t => exact .inr (List.all_eq_true.1 (quote_printable t) c h)

/-! ## Cutting a string into fragments -/

/-- A part of a string: a fragment, in which JSON demands no escape, or a character for which it
does. -/
inductive Segment where
  | fragment (t : Text) (free : ∀ c ∈ t, demanded? c = none)
  | escape (c : Char) (e : Text) (demanded : demanded? c = some e)

/-- The part of the string. -/
def Segment.text : Segment → Text
  | .fragment t _ => t
  | .escape c _ _ => [c]

/-- What is written for the part. -/
def Segment.written : Segment → Text
  | .fragment t _ => asciiFragment [] t
  | .escape _ e _ => e

/-- Pieces as they are written if strings are cut into fragments in any way. -/
inductive Piece.WrittenAs : Piece → Text → Prop where
  | lineEnd (level : Nat) : WrittenAs (.lineEnd level) (newLine level)
  | mark (t : Text) (printable : t.all isPrintableAscii = true) : WrittenAs (.mark t printable) t
  | literal (segments : List Segment) :
      WrittenAs (.literal (segments.flatMap Segment.text))
        ('"' :: segments.flatMap Segment.written ++ ['"'])

theorem Segment.written_eq (s : Segment) : s.written = s.text.flatMap asciiChar := by
  cases s with
  | fragment t free =>
    rw [Segment.written, Segment.text, asciiFragment_eq, List.reverse_nil, List.nil_append]
    refine List.flatMap_congr fun c hc => ?_
    rw [asciiChar, free c hc, Option.getD_none]
  | escape c e demanded =>
    rw [Segment.written, Segment.text, List.flatMap_singleton, asciiChar, demanded,
      Option.getD_some]

theorem exists_segments (t : Text) : ∃ segments : List Segment, segments.flatMap Segment.text = t := by
  induction t with
  | nil => exact ⟨[], rfl⟩
  | cons c t ih =>
    obtain ⟨segments, rfl⟩ := ih
    cases hc : demanded? c with
    | some e => exact ⟨.escape c e hc :: segments, rfl⟩
    | none =>
      have hfree : ∀ d ∈ [c], demanded? d = none := by
        intro d hd
        rw [List.mem_singleton.1 hd, hc]
      exact ⟨.fragment [c] hfree :: segments, rfl⟩

/-- **A piece is written in one way,** wherever its string is cut. -/
theorem Piece.writtenAs_iff {p : Piece} {t : Text} : p.WrittenAs t ↔ t = p.ascii := by
  have hliteral : ∀ segments : List Segment,
      '"' :: segments.flatMap Segment.written ++ ['"'] =
        quote (asciiFragment []) (segments.flatMap Segment.text) := by
    intro segments
    rw [quote_asciiFragment, Json.literal, List.flatMap_assoc,
      List.flatMap_congr fun s _ => s.written_eq]
  constructor
  · intro h
    cases h with
    | lineEnd level => rfl
    | mark t printable => rfl
    | literal segments => exact hliteral segments
  · rintro rfl
    cases p with
    | lineEnd level => exact .lineEnd level
    | mark t printable => exact .mark t printable
    | literal t =>
      obtain ⟨segments, rfl⟩ := exists_segments t
      show WrittenAs _ (quote (asciiFragment []) _)
      rw [← hliteral]
      exact .literal segments

theorem forall₂_writtenAs_iff {ps : List Piece} {texts : List Text} :
    List.Forall₂ Piece.WrittenAs ps texts ↔ texts = ps.map Piece.ascii := by
  constructor
  · intro h
    induction h with
    | nil => rfl
    | cons hp _ ih => rw [Piece.writtenAs_iff.1 hp, ih, List.map_cons]
  · rintro rfl
    rw [List.forall₂_map_right_iff]
    exact List.forall₂_same.2 fun p _ => Piece.writtenAs_iff.2 rfl

/-! ## Escaping a value -/

theorem Value.pretty_eq (v : Value) : v.pretty = putTogether id (v.pieces 0) :=
  v.write_eq_pieces id 0

theorem Value.ascii_eq (v : Value) : v.ascii = putTogether (asciiFragment []) (v.pieces 0) :=
  v.write_eq_pieces (asciiFragment []) 0

theorem Value.ascii_eq_pretty (v : Value) : v.ascii = v.pretty.flatMap asciiForm := by
  rw [v.ascii_eq, v.pretty_eq, putTogether, putTogether, List.flatMap_assoc]
  exact List.flatMap_congr fun p _ => p.ascii_eq

/-- The bytes of line feeds and printable ASCII. -/
theorem utf8_of_printable {t : Text} (h : ∀ c ∈ t, c = '\n' ∨ isPrintableAscii c = true) {b : Nat}
    (hb : b ∈ Text.utf8 t) : b = 0x0A ∨ 0x20 ≤ b ∧ b ≤ 0x7E := by
  obtain ⟨c, hc, hbyte⟩ := List.mem_flatMap.1 hb
  rcases h c hc with rfl | hprint
  · exact .inl (List.mem_singleton.1 hbyte)
  · have hrange : 0x20 ≤ c.toNat ∧ c.toNat ≤ 0x7E := isPrintableAscii_iff.1 hprint
    have hone : Text.utf8Char c = [c.toNat] := by
      unfold Text.utf8Char
      exact if_pos (by omega)
    rw [hone, List.mem_singleton] at hbyte
    exact .inr (hbyte ▸ hrange)

theorem Value.ascii_printable {v : Value} {c : Char} (h : c ∈ v.ascii) :
    c = '\n' ∨ isPrintableAscii c = true := by
  rw [v.ascii_eq] at h
  obtain ⟨p, -, hp⟩ := List.mem_flatMap.1 h
  exact Piece.printable_of_mem hp

/-- No value ends with a line end. -/
theorem Value.getLast?_ascii (v : Value) : v.ascii.getLast? ≠ some '\n' := by
  unfold Value.ascii
  cases v with
  | null => decide
  | bool b => cases b <;> decide
  | number n =>
    intro hlast
    have hmem : '\n' ∈ n.toText := List.mem_of_getLast? hlast
    exact ne_newline_of_printable (List.all_eq_true.1 (number_printable n) _ hmem) rfl
  | text t =>
    rw [Value.write, quote, List.getLast?_concat]
    decide
  | array items =>
    cases items with
    | nil => decide
    | cons item items =>
      rw [Value.write, List.getLast?_concat]
      decide
  | object members =>
    cases members with
    | nil => decide
    | cons member members =>
      rw [Value.write, List.getLast?_concat]
      decide

/-- What a text has to be to be the ASCII form of a value. -/
structure EscapedForm (v : Value) (t : Text) : Prop where
  /-- It is the plain form with characters escaped where they stand. -/
  escaped : t = v.pretty.flatMap asciiForm
  /-- Its bytes are line feeds and printable ASCII. -/
  bytes : ∀ b ∈ Text.utf8 t, b = 0x0A ∨ 0x20 ≤ b ∧ b ≤ 0x7E
  /-- It is put together from the pieces from which the plain form is, and the line feeds are those
  of the line ends. -/
  layout : v.pretty = putTogether id (v.pieces 0) ∧
    t = putTogether (asciiFragment []) (v.pieces 0) ∧
    ∀ p ∈ v.pieces 0, '\n' ∈ p.ascii ↔ ∃ level, p = .lineEnd level
  /-- It does not end with a line feed. -/
  last : t.getLast? ≠ some '\n'
  /-- It is what is written, however strings are cut into fragments. -/
  fragments : ∀ t', (∃ texts, List.Forall₂ Piece.WrittenAs (v.pieces 0) texts ∧
    t' = texts.flatten) ↔ t' = t

theorem escapedForm_ascii (v : Value) : EscapedForm v v.ascii where
  escaped := v.ascii_eq_pretty
  bytes _ := utf8_of_printable fun _ => Value.ascii_printable
  layout := ⟨v.pretty_eq, v.ascii_eq, fun p _ => p.newline_mem_iff⟩
  last := v.getLast?_ascii
  fragments t' := by
    simp only [forall₂_writtenAs_iff, exists_eq_left]
    rw [v.ascii_eq, putTogether, List.flatMap_def]

/-- **The ASCII form escapes the plain form.** In the text of any value, and of merged records, each
character of the plain form that is neither a line feed nor between a blank and a tilde is replaced by
the escapes of its UTF-16 code units. So all bytes are line feeds or printable ASCII, all line feeds
belong to the layout and none stands at the end, and cutting strings into other fragments gives the
same text. -/
theorem ascii_escapes_pretty :
    (∀ c, EscapesChar c (escapeUnits c)) ∧
    (∀ v : Value, EscapedForm v v.ascii) ∧
    (∀ m : Merged, EscapedForm m.toJson m.toText) :=
  ⟨escapesChar_escapeUnits, escapedForm_ascii, fun m => escapedForm_ascii m.toJson⟩

-- A letter with an accent, a character above the first plane and one that JSON escapes itself.
example : (Value.array [.text ['\u00e9', Char.ofNat 0x1F600, '\n', '\x7f']]).ascii =
    "[\n  \"\\u00e9\\ud83d\\ude00\\n\\u007f\"\n]".toList := by
  decide

end Roster.Json
