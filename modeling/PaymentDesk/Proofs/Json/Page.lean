import PaymentDesk.Json.Printer
import PaymentDesk.Proofs.Dialogue.Boundless
import PaymentDesk.Proofs.Json.Cursor

/-!
# The page of a document

What a reader of the page sees, place by place (`Laid`), follows for each piece of a layout (`Piece`) from its parts:
pieces are put together (`Piece.append`), set on a new line (`Piece.onLine`) and put in brackets (`Piece.opening`). By
induction on the value **each layout is such a piece**, of which squeezing leaves the compact text (`piece_layout`).

The main result is `page_tidy`: what is stored when a document is presented is its sorted compact text with blanks
between the tokens, and these blanks are as `Tidy` says.
-/

namespace PaymentDesk.Json

open PaymentDesk.Text

/-- The number of indentations in front of a character: a closing bracket stands outside of what it closes. -/
def level (depth : Nat) (c : Char) : Nat := if closes c then depth - 1 else depth

/-- The line begins with four spaces for each array and object that is open at its first character after them. -/
def Indented (depth : Nat) (line : List Char) : Prop :=
  ∃ c r, line = List.replicate (4 * level depth c) ' ' ++ c :: r ∧ isBlank c = false

/-- What holds at a place of a laid out text. -/
structure Laid (s : Cursor) (c : Char) (next : List Char) : Prop where
  lineEnd : c = '\n' → s.isOutside = true ∧ (next = [] ∨ Indented s.depth next)
  space : s.isOutside = true → c = ' ' → next.head? ≠ some '\n'
  comma : s.isOutside = true → c = ',' → next.head? = some '\n'
  bracket : s.isOutside = true → opens c = true → next.head? = some (closing c) ∨
    ∃ n d r, next = '\n' :: (List.replicate n ' ' ++ d :: r) ∧ isBlank d = false ∧ closes d = false

theorem not_lineFeed_of_not_isBlank {c : Char} (h : isBlank c = false) : c ≠ '\n' := by
  intro hc
  subst hc
  cases h

theorem laid_inText {s : Cursor} {c : Char} {next : List Char} (hs : s.isOutside = false) (hc : c ≠ '\n') :
    Laid s c next where
  lineEnd h := absurd h hc
  space h := by rw [hs] at h; cases h
  comma h := by rw [hs] at h; cases h
  bracket h := by rw [hs] at h; cases h

theorem laid_of_solid {s : Cursor} {c : Char} {next : List Char} (hblank : isBlank c = false) (hcomma : c ≠ ',')
    (hopens : opens c = false) : Laid s c next where
  lineEnd h := absurd h (not_lineFeed_of_not_isBlank hblank)
  space _ h := by subst h; cases hblank
  comma _ h := absurd h hcomma
  bracket _ h := by rw [hopens] at h; cases h

theorem laid_space {s : Cursor} {next : List Char} (h : next.head? ≠ some '\n') : Laid s ' ' next where
  lineEnd hc := absurd hc (by decide)
  space _ _ := h
  comma _ hc := absurd hc (by decide)
  bracket _ hc := absurd hc (by decide)

theorem laid_lineFeed {s : Cursor} {next : List Char} (hs : s.isOutside = true)
    (h : next = [] ∨ Indented s.depth next) : Laid s '\n' next where
  lineEnd _ := ⟨hs, h⟩
  space _ hc := absurd hc (by decide)
  comma _ hc := absurd hc (by decide)
  bracket _ hc := absurd hc (by decide)

theorem laid_comma {s : Cursor} {next : List Char} (h : next.head? = some '\n') : Laid s ',' next where
  lineEnd hc := absurd hc (by decide)
  space _ hc := absurd hc (by decide)
  comma _ _ := h
  bracket _ hc := absurd hc (by decide)

theorem laid_opening {s : Cursor} {o : Char} {next : List Char} (ho : opens o = true)
    (h : next.head? = some (closing o) ∨
      ∃ n d r, next = '\n' :: (List.replicate n ' ' ++ d :: r) ∧ isBlank d = false ∧ closes d = false) :
    Laid s o next := by
  have hne {c : Char} (hc : opens c = false) : o ≠ c := by
    intro heq
    rw [heq, hc] at ho
    cases ho
  exact ⟨fun hc => absurd hc (hne rfl), fun _ hc => absurd hc (hne rfl), fun _ hc => absurd hc (hne rfl), fun _ _ => h⟩

/-! ## Pieces -/

/-- A piece of a layout between places inside `depth` and `depth'` arrays and objects; without its blanks it is `u`. -/
structure Piece (depth depth' : Nat) (t u : List Char) : Prop where
  read : (Cursor.outside depth).read t = .outside depth'
  squeeze : Json.squeeze (.outside depth) t = u
  laid : ∀ rest, Everywhere Laid rest (.outside depth) t

section Pieces

variable {depth depth' depth'' : Nat} {t u t' u' : List Char} {c o : Char}

theorem Piece.append (h : Piece depth depth' t u) (h' : Piece depth' depth'' t' u') :
    Piece depth depth'' (t ++ t') (u ++ u') where
  read := by rw [Cursor.read_append, h.read, h'.read]
  squeeze := by rw [squeeze_append, h.squeeze, h.read, h'.squeeze]
  laid rest := everywhere_append.mpr ⟨h.laid _, h.read ▸ h'.laid rest⟩

/-- One character in front of a piece. -/
theorem Piece.cons (h : Piece depth' depth'' t u) (hstep : (Cursor.outside depth).step c = .outside depth')
    (hblank : isBlank c = false) (hlaid : ∀ rest, Laid (.outside depth) c (t ++ rest)) :
    Piece depth depth'' (c :: t) (c :: u) where
  read := by rw [Cursor.read, List.foldl_cons, hstep]; exact h.read
  squeeze := by
    rw [Json.squeeze, hblank, hstep, h.squeeze]
    rfl
  laid rest := ⟨hlaid rest, hstep ▸ h.laid rest⟩

theorem piece_nil (depth : Nat) : Piece depth depth [] [] where
  read := rfl
  squeeze := rfl
  laid _ := trivial

/-- A character that changes nothing. -/
theorem Piece.plain (h : Piece depth depth' t u) (hc : Plain c) : Piece depth depth' (c :: t) (c :: u) := by
  obtain ⟨hquote, hcomma, hopens, hcloses, hblank⟩ := hc
  refine h.cons ?_ hblank fun rest => laid_of_solid hblank hcomma hopens
  simp only [Cursor.step, if_neg hquote, hopens, hcloses, Bool.false_eq_true, if_false]

theorem piece_plain (depth : Nat) (h : ∀ c ∈ t, Plain c) : Piece depth depth t t := by
  induction t with
  | nil => exact piece_nil depth
  | cons c t ih =>
    obtain ⟨hc, ht⟩ := List.forall_mem_cons.mp h
    exact (ih ht).plain hc

theorem piece_quote (depth : Nat) (s : List Char) : Piece depth depth (quote s) (quote s) := by
  have hwithin := within_escapes s
  have hfirst : (Cursor.outside depth).step '"' = .inText depth := rfl
  constructor
  · rw [quote, Cursor.read, List.foldl_cons, hfirst]
    show (Cursor.inText depth).read _ = _
    rw [Cursor.read_append, hwithin.read]
    rfl
  · rw [quote, Json.squeeze, hfirst, squeeze_append, hwithin.squeeze_eq, hwithin.read]
    rfl
  · intro rest
    have hquote {s : Cursor} {next : List Char} : Laid s '"' next := laid_of_solid rfl (by decide) rfl
    rw [quote, Everywhere, hfirst, everywhere_append, hwithin.read]
    exact ⟨hquote, hwithin.everywhere depth fun s c next => laid_inText, hquote, trivial⟩

/-- A closing bracket. -/
theorem piece_closing (depth : Nat) (h : closes c = true) : Piece (depth + 1) depth [c] [c] := by
  rcases closes_iff.mp h with rfl | rfl
  · exact (piece_nil depth).cons rfl rfl fun rest => laid_of_solid rfl (by decide) rfl
  · exact (piece_nil depth).cons rfl rfl fun rest => laid_of_solid rfl (by decide) rfl

/-- A space in front of a piece. -/
theorem Piece.space (h : Piece depth depth' (c :: t) u) (hc : c ≠ '\n') : Piece depth depth' (' ' :: c :: t) u where
  read := h.read
  squeeze := h.squeeze
  laid rest := by
    refine ⟨laid_space ?_, h.laid rest⟩
    rw [List.cons_append, List.head?_cons, ne_eq, Option.some.injEq]
    exact hc

theorem Piece.spaces (h : Piece depth depth' (c :: t) u) (hc : c ≠ '\n') (n : Nat) :
    Piece depth depth' (List.replicate n ' ' ++ c :: t) u := by
  induction n with
  | zero => exact h
  | succ n ih =>
    cases n with
    | zero => exact h.space hc
    | succ n => exact ih.space (by decide)

/-- **A piece on a line of its own**, behind the indentation of its first character. -/
theorem Piece.onLine (h : Piece depth depth' (c :: t) u) (hblank : isBlank c = false) :
    Piece depth depth' (newLine (level depth c) ++ c :: t) u := by
  have hspaces := h.spaces (not_lineFeed_of_not_isBlank hblank) (4 * level depth c)
  constructor
  · exact hspaces.read
  · exact hspaces.squeeze
  · intro rest
    refine ⟨laid_lineFeed rfl (.inr ⟨c, t ++ rest, ?_, hblank⟩), hspaces.laid rest⟩
    rw [List.append_eq, List.append_assoc, List.cons_append]
    rfl

/-- A comma in front of a line. -/
theorem Piece.comma {n : Nat} (h : Piece depth depth' (newLine n ++ t) u) :
    Piece depth depth' (',' :: (newLine n ++ t)) (',' :: u) :=
  h.cons rfl rfl fun _ => laid_comma rfl

/-- An item or an entry on its line. -/
theorem Piece.item (h : Piece (depth + 1) depth' (c :: t) u) (hblank : isBlank c = false) (hcloses : closes c = false) :
    Piece (depth + 1) depth' (newLine (depth + 1) ++ c :: t) u := by
  have hline := h.onLine hblank
  rwa [level, hcloses, if_neg (by decide)] at hline

/-- The closing bracket on its line. -/
theorem piece_closingLine (depth : Nat) (h : closes c = true) : Piece (depth + 1) depth (newLine depth ++ [c]) [c] := by
  have hblank : isBlank c = false := by
    rcases closes_iff.mp h with rfl | rfl
    · rfl
    · rfl
  have hline := (piece_closing depth h).onLine hblank
  rwa [level, if_pos h, Nat.add_sub_cancel] at hline

/-- The opening bracket in front of the line of the first item or entry. -/
theorem Piece.opening {n : Nat} (h : Piece (depth + 1) depth' (newLine n ++ c :: t) u) (hblank : isBlank c = false)
    (hcloses : closes c = false) (ho : opens o = true) :
    Piece depth depth' (o :: (newLine n ++ c :: t)) (o :: u) := by
  have hlaid (rest : List Char) : Laid (.outside depth) o (newLine n ++ c :: t ++ rest) := by
    refine laid_opening ho (.inr ⟨4 * n, c, t ++ rest, ?_, hblank, hcloses⟩)
    rw [List.append_assoc, List.cons_append]
    rfl
  rcases opens_iff.mp ho with rfl | rfl
  · exact h.cons rfl rfl hlaid
  · exact h.cons rfl rfl hlaid

/-- Both brackets of an empty array or object. -/
theorem piece_empty (depth : Nat) (h : opens o = true) : Piece depth depth [o, closing o] [o, closing o] := by
  rcases opens_iff.mp h with rfl | rfl
  · exact (piece_closing depth rfl).cons rfl rfl fun rest => laid_opening rfl (.inl rfl)
  · exact (piece_closing depth rfl).cons rfl rfl fun rest => laid_opening rfl (.inl rfl)

end Pieces

/-! ## Layouts -/

/-- A layout begins with a character that is no blank and closes nothing. -/
theorem head_layout (depth : Nat) (v : Value) :
    ∃ c t, layout depth v = c :: t ∧ isBlank c = false ∧ closes c = false := by
  have hliteral {t : List Char} (h : Literal t) : ∃ c r, t = c :: r ∧ isBlank c = false ∧ closes c = false := by
    obtain ⟨c, r, rfl⟩ := List.exists_cons_of_ne_nil h.1
    obtain ⟨-, -, -, hcloses, hblank⟩ := h.2 c List.mem_cons_self
    exact ⟨c, r, rfl, hblank, hcloses⟩
  match v with
  | .null => exact ⟨_, _, rfl, rfl, rfl⟩
  | .bool b => exact hliteral (literal_boolText b)
  | .number n => exact hliteral (literal_text n)
  | .string s => exact ⟨_, _, rfl, rfl, rfl⟩
  | .array [] | .array (_ :: _) => exact ⟨_, _, rfl, rfl, rfl⟩
  | .object [] | .object (_ :: _) => exact ⟨_, _, rfl, rfl, rfl⟩

section Layouts

variable {depth depth' : Nat} {t u : List Char}

/-- An item in front of a piece. -/
theorem piece_item {v : Value} (hv : Piece (depth + 1) (depth + 1) (layout (depth + 1) v) (compact v))
    (h : Piece (depth + 1) depth' t u) :
    ∃ c r, layout (depth + 1) v ++ t = c :: r ∧ isBlank c = false ∧ closes c = false ∧
      Piece (depth + 1) depth' (c :: r) (compact v ++ u) := by
  obtain ⟨c, r, hlayout, hblank, hcloses⟩ := head_layout (depth + 1) v
  have happend := hv.append h
  rw [hlayout] at happend
  exact ⟨c, r ++ t, by rw [hlayout, List.cons_append], hblank, hcloses, happend⟩

/-- An entry in front of a piece. -/
theorem piece_entry (k : List Char) {v : Value}
    (hv : Piece (depth + 1) (depth + 1) (layout (depth + 1) v) (compact v)) (h : Piece (depth + 1) depth' t u) :
    Piece (depth + 1) depth' (quote k ++ ':' :: ' ' :: (layout (depth + 1) v ++ t))
      (quote k ++ ':' :: (compact v ++ u)) := by
  obtain ⟨c, r, hlayout, hblank, -, hpiece⟩ := piece_item hv h
  rw [hlayout]
  exact (piece_quote (depth + 1) k).append ((hpiece.space (not_lineFeed_of_not_isBlank hblank)).plain (by decide))

end Layouts

mutual

/-- **Each layout is a piece**, and what is left of it without blanks is the compact text. -/
theorem piece_layout (depth : Nat) : ∀ v, Piece depth depth (layout depth v) (compact v)
  | .null => piece_plain depth (plain_of_all rfl)
  | .bool b => piece_plain depth (literal_boolText b).2
  | .number n => piece_plain depth (literal_text n).2
  | .string s => piece_quote depth s
  | .array [] => piece_empty depth rfl
  | .object [] => piece_empty depth rfl
  | .array (v :: r) => by
    obtain ⟨c, t, hlayout, hblank, hcloses, hpiece⟩ := piece_item (piece_layout (depth + 1) v) (piece_items depth r)
    rw [layout, compact, List.append_assoc, hlayout]
    exact (hpiece.item hblank hcloses).opening hblank hcloses rfl
  | .object ((k, v) :: r) => by
    have hpiece := piece_entry k (piece_layout (depth + 1) v) (piece_entries depth r)
    rw [layout, compact, List.append_assoc, List.append_assoc]
    exact (hpiece.item rfl rfl).opening rfl rfl rfl

theorem piece_items (depth : Nat) : ∀ r, Piece (depth + 1) depth (layoutItems depth r) (compactItems r)
  | [] => piece_closingLine depth rfl
  | v :: r => by
    obtain ⟨c, t, hlayout, hblank, hcloses, hpiece⟩ := piece_item (piece_layout (depth + 1) v) (piece_items depth r)
    rw [layoutItems, compactItems, List.append_assoc, hlayout]
    exact (hpiece.item hblank hcloses).comma

theorem piece_entries (depth : Nat) : ∀ r, Piece (depth + 1) depth (layoutEntries depth r) (compactEntries r)
  | [] => piece_closingLine depth rfl
  | (k, v) :: r => by
    have hpiece := piece_entry k (piece_layout (depth + 1) v) (piece_entries depth r)
    rw [layoutEntries, compactEntries, List.append_assoc, List.append_assoc]
    exact (hpiece.item rfl rfl).comma

end

/-! ## Pages -/

/-- What a text of lines looks like from outside, the cursor running over it from its first character. -/
structure Tidy (text : List Char) : Prop where
  /-- No line ends in a quoted text. -/
  outside {before after : List Char} (h : text = before ++ '\n' :: after) :
    ((Cursor.outside 0).read before).isOutside = true
  /-- At each start of a line there are four spaces for each array and object that is open at the first character after
  them. -/
  indented {before line : List Char} (h : text = before ++ line) (start : before = [] ∨ before.getLast? = some '\n')
    (hline : line ≠ []) : ∃ n c r, line = List.replicate n ' ' ++ c :: r ∧ isBlank c = false ∧
      n = 4 * level ((Cursor.outside 0).read (before ++ List.replicate n ' ')).depth c
  /-- No space stands at the end of a line. -/
  trailing (before after : List Char) : text ≠ before ++ ' ' :: '\n' :: after
  /-- Behind a comma, the next item or entry begins a line. -/
  comma {before after : List Char} (h : text = before ++ ',' :: after)
    (hout : ((Cursor.outside 0).read before).isOutside = true) : after.head? = some '\n'
  /-- Behind an opening bracket, there is its closing bracket, or the first item or entry begins a line. -/
  bracket {before after : List Char} {o : Char} (h : text = before ++ o :: after)
    (hout : ((Cursor.outside 0).read before).isOutside = true) (ho : opens o = true) :
    after.head? = some (closing o) ∨
      ∃ n c r, after = '\n' :: (List.replicate n ' ' ++ c :: r) ∧ isBlank c = false ∧ closes c = false
  /-- One line end stands at the end. -/
  ending : ∃ body c, text = body ++ [c, '\n'] ∧ c ≠ '\n'

section Pages

theorem read_spaces (depth n : Nat) : (Cursor.outside depth).read (List.replicate n ' ') = .outside depth := by
  induction n with
  | zero => rfl
  | succ n ih => exact ih

/-- The line behind a line end. -/
theorem indented_of_laid {before line : List Char} (h : Everywhere Laid [] (.outside 0) (before ++ '\n' :: line))
    (hline : line ≠ []) : ∃ n c r, line = List.replicate n ' ' ++ c :: r ∧ isBlank c = false ∧
      n = 4 * level ((Cursor.outside 0).read (before ++ '\n' :: List.replicate n ' ')).depth c := by
  obtain ⟨houtside, hindented⟩ := h.at.lineEnd rfl
  obtain ⟨c, r, hr, hblank⟩ := hindented.resolve_left hline
  refine ⟨_, c, r, hr, hblank, ?_⟩
  rw [Cursor.read_append]
  cases hplace : (Cursor.outside 0).read before with
  | outside depth =>
    show _ = 4 * level ((Cursor.outside depth).read (List.replicate _ ' ')).depth c
    rw [read_spaces]
  | inText depth | escaping depth =>
    rw [hplace] at houtside
    cases houtside

/-- No space stands in front of a line end: outside of quoted texts it must not, and in them no line ends. -/
theorem trailing_of_laid {before after : List Char} :
    ¬ Everywhere Laid [] (.outside 0) (before ++ ' ' :: '\n' :: after) := by
  intro h
  have hspace := h.at.space
  have hnext : Everywhere Laid [] (.outside 0) (before ++ [' '] ++ '\n' :: after) := by rwa [List.append_assoc]
  have hend := (hnext.at.lineEnd rfl).1
  rw [Cursor.read_append] at hend
  cases hplace : (Cursor.outside 0).read before with
  | outside depth =>
    rw [hplace] at hspace
    exact hspace rfl rfl rfl
  | inText depth | escaping depth =>
    rw [hplace] at hend
    cases hend

/-- **A text that is laid out everywhere is tidy**, if it begins with a character that is not blank. -/
theorem tidy_of_laid {c : Char} {t : List Char} (h : Everywhere Laid [] (.outside 0) (c :: t ++ ['\n']))
    (hblank : isBlank c = false) : Tidy (c :: t ++ ['\n']) where
  outside htext := by
    rw [htext] at h
    exact (h.at.lineEnd rfl).1
  indented {before line} htext start hline := by
    rcases start with rfl | hlast
    · have hlevel : 0 = 4 * level 0 c := by rw [level, Nat.zero_sub, ite_self]
      exact ⟨0, c, t ++ ['\n'], htext.symm, hblank, hlevel⟩
    · obtain ⟨before, rfl⟩ := List.getLast?_eq_some_iff.mp hlast
      rw [List.append_assoc] at htext
      rw [htext] at h
      obtain ⟨n, d, r, hr, hd, hn⟩ := indented_of_laid h hline
      exact ⟨n, d, r, hr, hd, by rwa [List.append_assoc]⟩
  trailing before after htext := trailing_of_laid (htext ▸ h)
  comma htext hout := by
    rw [htext] at h
    exact h.at.comma hout rfl
  bracket htext hout ho := by
    rw [htext] at h
    exact h.at.bracket hout ho
  ending := by
    rcases List.eq_nil_or_concat (c :: t) with hnil | ⟨body, d, hbody⟩
    · cases hnil
    rw [List.concat_eq_append] at hbody
    refine ⟨body, d, by rw [hbody, List.append_assoc]; rfl, ?_⟩
    rintro rfl
    rw [hbody, List.append_assoc] at h
    obtain ⟨n, d, r, hr, hd, -⟩ := indented_of_laid h (List.cons_ne_nil '\n' [])
    cases n with
    | zero => exact not_lineFeed_of_not_isBlank hd (List.cons.inj hr).1.symm
    | succ n => exact absurd (List.cons.inj hr).1 (by decide)

/-- **The page of a document.** Over a sink without limits, presenting a document stores a tidy text, flushed once, that
without its blanks is the compact text of the sorted document. -/
theorem page_tidy {σ : Type} (e : Setting σ) (w : World σ) (stored : List UInt8) (flushes : Nat) (v : Value) :
    ∃ text, (Dialogue.present (page v)).run e { w with sink := ⟨stored, flushes, none, none⟩ } =
        (.ok (), { w with sink := ⟨stored ++ Utf8.encode text, flushes + 1, none, none⟩ }) ∧
      squeeze (.outside 0) text = compact (sortKeys v) ∧ Tidy text := by
  have hpiece : Piece 0 0 (page v) (compact (sortKeys v)) := piece_layout 0 (sortKeys v)
  have hlaid : Everywhere Laid [] (.outside 0) (page v ++ ['\n']) := by
    rw [everywhere_append, hpiece.read]
    exact ⟨hpiece.laid _, laid_lineFeed rfl (.inl rfl), trivial⟩
  refine ⟨page v ++ ['\n'], Dialogue.run_present ⟨rfl, rfl⟩ (page v), ?_, ?_⟩
  · rw [squeeze_append, hpiece.squeeze, hpiece.read]
    exact List.append_nil _
  · obtain ⟨c, t, hpage, hblank, -⟩ := head_layout 0 (sortKeys v)
    rw [page, hpage] at hlaid ⊢
    exact tidy_of_laid hlaid hblank

/-- An empty object in an array, in an object whose entries were not in order. -/
example : page (.object [(['b'], .array [.object [], .bool true]), (['a'], .string ['[', '"'])]) =
    "\x7b\n    \"a\": \"[\\\"\",\n    \"b\": [\n        \x7b\x7d,\n        true\n    ]\n\x7d".toList := rfl

end Pages

end PaymentDesk.Json
