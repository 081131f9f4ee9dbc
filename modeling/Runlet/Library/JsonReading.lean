import Runlet.Library.Json
import Runlet.Library.StableSort
import Mathlib.Tactic.IntervalCases

/-!
# Reading a serialized JSON value

`Json.serialize` writes a text, an array or an object in such a way that its end can be found:
`skip` reads on to the end of the value that starts a list of characters, counting brackets outside
of quoted texts.  Such a value is *closed*: `skip` stops exactly at its end.  So a serialized object
determines its entries (`perm_of_serialize_obj`), a serialized array its items
(`serializeList_of_serialize_arr`), and a quoted text what was quoted (`dumpsText_injective`).  A
quoted text can also be read from its end (`append_dumpsText_inj`).

Numbers are not closed, but they are transparent: inside a container `skip` runs over them.  Their
literals are the only part of a value that `serialize` does not write itself; `Json.Plain` says that
they have no quotes and no brackets.
-/

namespace Json

/-! ## What a serialized value depends on -/

theorem serializeList_eq_map (blank : String) (ascii : Bool) (l : List Json) :
    serializeList blank ascii l = l.map (serialize blank ascii) := by
  induction l with
  | nil => rfl
  | cons v l ih => rw [serializeList, ih, List.map_cons]

theorem serialize_arr_congr {blank : String} {ascii : Bool} {l l' : List Json}
    (h : l.map (serialize blank ascii) = l'.map (serialize blank ascii)) :
    serialize blank ascii (.arr l) = serialize blank ascii (.arr l') := by
  rw [serialize, serialize, serializeList_eq_map, serializeList_eq_map, h]

theorem serialize_obj_congr {blank : String} {ascii : Bool} {l l' : List (String × Json)}
    (h : serializeEntries blank ascii l = serializeEntries blank ascii l') :
    serialize blank ascii (.obj l) = serialize blank ascii (.obj l') := by
  rw [serialize, serialize, h]

/-! ## Finding the end of a value -/

/-- Where a reader stands: outside of quotes, in a quoted text, behind a backslash. -/
inductive Mode where
  | out
  | text
  | escape

/-- The rest behind the value whose opening brackets were read `depth` times. -/
def skip : ℕ → Mode → List Char → Option (List Char)
  | _, _, [] => none
  | depth, .escape, _ :: l => skip depth .text l
  | depth, .text, c :: l =>
    if c = '\\' then skip depth .escape l
    else if c = '"' then
      match depth with
      | 0 => some l
      | depth + 1 => skip (depth + 1) .out l
    else skip depth .text l
  | depth, .out, c :: l =>
    if c = '"' then skip depth .text l
    else if c = '[' ∨ c = '\x7b' then skip (depth + 1) .out l
    else if c = ']' ∨ c = '\x7d' then
      match depth with
      | 0 => none
      | 1 => some l
      | depth + 2 => skip (depth + 1) .out l
    else skip depth .out l

/-- A text that a reader at its start reads exactly to its end. -/
def Closed (s : List Char) : Prop :=
  ∀ rest, skip 0 .out (s ++ rest) = some rest

/-- A text that a reader inside a container runs over. -/
def Transparent (s : List Char) : Prop :=
  ∀ depth rest, skip (depth + 1) .out (s ++ rest) = skip (depth + 1) .out rest

theorem Closed.append_inj {u v s t : List Char} (hu : Closed u) (hv : Closed v)
    (h : u ++ s = v ++ t) : u = v ∧ s = t := by
  have hrest : s = t := by
    have hread := hu s
    rw [h, hv t] at hread
    exact (Option.some_inj.mp hread).symm
  rw [hrest] at h
  exact ⟨List.append_cancel_right h, hrest⟩

/-- A closed text does not start with a closing bracket. -/
theorem Closed.append_ne_cons {u s t : List Char} (hu : Closed u) {c : Char}
    (hc : c = ']' ∨ c = '\x7d') : u ++ s ≠ c :: t := by
  intro h
  have hread := hu s
  rw [h] at hread
  rcases hc with rfl | rfl <;> simp [skip] at hread

/-! ## Transparent texts -/

/-- Neither a quote nor a bracket. -/
def PlainChar (c : Char) : Prop :=
  c ≠ '"' ∧ c ≠ '[' ∧ c ≠ ']' ∧ c ≠ '\x7b' ∧ c ≠ '\x7d'

instance : DecidablePred PlainChar := fun c =>
  inferInstanceAs (Decidable
    (c ≠ '"' ∧ c ≠ '[' ∧ c ≠ ']' ∧ c ≠ '\x7b' ∧ c ≠ '\x7d'))

theorem transparent_nil : Transparent [] := fun _ _ => rfl

theorem Transparent.append {s t : List Char} (hs : Transparent s) (ht : Transparent t) :
    Transparent (s ++ t) := by
  intro depth rest
  rw [List.append_assoc, hs, ht]

theorem skip_of_plainChar (depth : ℕ) {c : Char} (h : PlainChar c) (l : List Char) :
    skip depth .out (c :: l) = skip depth .out l := by
  obtain ⟨hquote, hopen, hclose, hbrace, hbrace'⟩ := h
  rw [skip.eq_def]
  simp only [if_neg hquote, if_neg (not_or.mpr ⟨hopen, hbrace⟩),
    if_neg (not_or.mpr ⟨hclose, hbrace'⟩)]

theorem skip_quote (depth : ℕ) (l : List Char) :
    skip depth .out ('"' :: l) = skip depth .text l := by
  rw [skip.eq_def]
  simp only [if_pos]

theorem transparent_of_plain {s : List Char} (h : ∀ c ∈ s, PlainChar c) : Transparent s := by
  intro depth rest
  induction s with
  | nil => rfl
  | cons c s ih =>
    rw [List.cons_append, skip_of_plainChar _ (h c List.mem_cons_self)]
    exact ih fun d hd => h d (List.mem_cons_of_mem _ hd)

theorem transparent_intercalate {sep : List Char} (hsep : Transparent sep) :
    ∀ {l : List (List Char)}, (∀ s ∈ l, Transparent s) → Transparent (sep.intercalate l)
  | [], _ => by
    rw [List.intercalate_nil]
    exact transparent_nil
  | [s], h => by
    rw [List.intercalate_singleton]
    exact h s List.mem_cons_self
  | s :: s' :: l, h => by
    rw [List.intercalate_cons_cons]
    exact ((h s List.mem_cons_self).append hsep).append
      (transparent_intercalate hsep fun r hr => h r (List.mem_cons_of_mem _ hr))

/-- The two kinds of brackets. -/
def Brackets (opening closing : Char) : Prop :=
  (opening = '[' ∧ closing = ']') ∨ (opening = '\x7b' ∧ closing = '\x7d')

theorem skip_opening {opening closing : Char} (h : Brackets opening closing) (depth : ℕ)
    (l : List Char) : skip depth .out (opening :: l) = skip (depth + 1) .out l := by
  rcases h with ⟨rfl, -⟩ | ⟨rfl, -⟩ <;> simp [skip]

/-- A transparent text between brackets is closed, and transparent. -/
theorem closed_brackets {opening closing : Char} (hb : Brackets opening closing)
    {body : List Char} (h : Transparent body) : Closed (opening :: (body ++ [closing])) := by
  intro rest
  rw [List.cons_append, List.append_assoc, skip_opening hb, h]
  rcases hb with ⟨-, rfl⟩ | ⟨-, rfl⟩ <;> simp [skip]

theorem transparent_brackets {opening closing : Char} (hb : Brackets opening closing)
    {body : List Char} (h : Transparent body) :
    Transparent (opening :: (body ++ [closing])) := by
  intro depth rest
  rw [List.cons_append, List.append_assoc, skip_opening hb, h]
  rcases hb with ⟨-, rfl⟩ | ⟨-, rfl⟩ <;> simp [skip]

/-! ## Quoted texts -/

theorem hexDigit_ne (n : Nat) : hexDigit n ≠ '\\' ∧ hexDigit n ≠ '"' := by
  by_cases hn : n < 16
  · interval_cases n <;> decide
  · have hlen : 16 ≤ n := Nat.le_of_not_lt hn
    unfold hexDigit
    rw [List.getD_eq_getElem?_getD, List.getElem?_eq_none hlen]
    decide

theorem skip_text_of_ne (depth : ℕ) {c : Char} (h : c ≠ '\\' ∧ c ≠ '"') (l : List Char) :
    skip depth .text (c :: l) = skip depth .text l := by
  rw [skip.eq_def]
  simp only [if_neg h.1, if_neg h.2]

theorem skip_text_escape (depth : ℕ) (c : Char) (l : List Char) :
    skip depth .text ('\\' :: c :: l) = skip depth .text l := by
  simp [skip]

theorem skip_unicodeEscape (depth n : ℕ) (l : List Char) :
    skip depth .text (unicodeEscape n ++ l) = skip depth .text l := by
  unfold unicodeEscape
  simp only [List.cons_append, List.nil_append]
  rw [skip_text_escape, skip_text_of_ne _ (hexDigit_ne _), skip_text_of_ne _ (hexDigit_ne _),
    skip_text_of_ne _ (hexDigit_ne _), skip_text_of_ne _ (hexDigit_ne _)]

theorem skip_escapeChar (ascii : Bool) (depth : ℕ) (c : Char) (l : List Char) :
    skip depth .text (escapeChar ascii c ++ l) = skip depth .text l := by
  unfold escapeChar
  dsimp only
  split
  · exact skip_text_escape depth _ l
  · rename_i hquote
    split
    · exact skip_text_escape depth _ l
    · rename_i hbackslash
      split
      · exact skip_text_escape depth _ l
      · split
        · exact skip_text_escape depth _ l
        · split
          · exact skip_text_escape depth _ l
          · split
            · exact skip_text_escape depth _ l
            · split
              · exact skip_text_escape depth _ l
              · split
                · exact skip_unicodeEscape depth _ l
                · split
                  · split
                    · exact skip_unicodeEscape depth _ l
                    · rw [List.append_assoc, skip_unicodeEscape, skip_unicodeEscape]
                  · exact skip_text_of_ne depth ⟨hbackslash, hquote⟩ l

theorem skip_flatMap_escapeChar (ascii : Bool) (depth : ℕ) (s l : List Char) :
    skip depth .text (s.flatMap (escapeChar ascii) ++ l) = skip depth .text l := by
  induction s with
  | nil => rfl
  | cons c s ih => rw [List.flatMap_cons, List.append_assoc, skip_escapeChar, ih]

theorem toList_dumpsText (ascii : Bool) (s : String) :
    (dumpsText ascii s).toList = '"' :: (s.toList.flatMap (escapeChar ascii) ++ ['"']) :=
  String.toList_ofList

theorem skip_quoted (ascii : Bool) (depth : ℕ) (s : String) (l : List Char) :
    skip depth .out ((dumpsText ascii s).toList ++ l) = skip depth .text ('"' :: l) := by
  rw [toList_dumpsText, List.cons_append, List.append_assoc, skip_quote,
    skip_flatMap_escapeChar, List.singleton_append]

theorem closed_dumpsText (ascii : Bool) (s : String) : Closed (dumpsText ascii s).toList := by
  intro rest
  rw [skip_quoted]
  simp [skip]

theorem transparent_dumpsText (ascii : Bool) (s : String) :
    Transparent (dumpsText ascii s).toList := by
  intro depth rest
  rw [skip_quoted]
  simp [skip]

/-! ## Quoting loses nothing -/

/-- The value of a hexadecimal digit. -/
def hexValue (c : Char) : ℕ :=
  ['0', '1', '2', '3', '4', '5', '6', '7', '8', '9', 'a', 'b', 'c', 'd', 'e', 'f'].idxOf c

/-- The first character of a quoted text, and what follows. -/
def unescape : List Char → Option (Char × List Char)
  | [] => none
  | '"' :: _ => none
  | '\\' :: 'u' :: '0' :: '0' :: a :: b :: l => some (Char.ofNat (16 * hexValue a + hexValue b), l)
  | '\\' :: 'n' :: l => some ('\n', l)
  | '\\' :: 'r' :: l => some ('\r', l)
  | '\\' :: 't' :: l => some ('\t', l)
  | '\\' :: 'b' :: l => some (Char.ofNat 8, l)
  | '\\' :: 'f' :: l => some (Char.ofNat 12, l)
  | '\\' :: c :: l => some (c, l)
  | c :: l => some (c, l)

theorem unescape_unicodeEscape {n : ℕ} (hn : n < 32) (l : List Char) :
    unescape (unicodeEscape n ++ l) = some (Char.ofNat n, l) := by
  interval_cases n <;> rfl

theorem unescape_of_ne {c : Char} (h : c ≠ '\\' ∧ c ≠ '"') (l : List Char) :
    unescape (c :: l) = some (c, l) := by
  unfold unescape
  split <;> simp_all

theorem unescape_escapeChar (c : Char) (l : List Char) :
    unescape (escapeChar false c ++ l) = some (c, l) := by
  have hof : ∀ {n : ℕ}, c.toNat = n → c = Char.ofNat n := fun hn => by
    rw [← hn, Char.ofNat_toNat]
  unfold escapeChar
  dsimp only
  split
  · rename_i h
    rw [h]
    rfl
  · rename_i hquote
    split
    · rename_i h
      rw [h]
      rfl
    · rename_i hbackslash
      split
      · rename_i h
        rw [h]
        rfl
      · split
        · rename_i h
          rw [h]
          rfl
        · split
          · rename_i h
            rw [h]
            rfl
          · split
            · rename_i h
              rw [hof h]
              rfl
            · split
              · rename_i h
                rw [hof h]
                rfl
              · split
                · rename_i h
                  rw [unescape_unicodeEscape h, Char.ofNat_toNat]
                · rw [if_neg (by simp)]
                  exact unescape_of_ne ⟨hbackslash, hquote⟩ l

theorem flatMap_escapeChar_injective :
    ∀ {s t : List Char}, s.flatMap (escapeChar false) ++ ['"'] =
      t.flatMap (escapeChar false) ++ ['"'] → s = t
  | [], [], _ => rfl
  | [], c :: t, h => by
    have hread := congrArg unescape h
    rw [List.flatMap_cons, List.append_assoc, unescape_escapeChar] at hread
    exact nomatch hread
  | c :: s, [], h => by
    have hread := congrArg unescape h
    rw [List.flatMap_cons, List.append_assoc, unescape_escapeChar] at hread
    exact nomatch hread
  | c :: s, d :: t, h => by
    have hread := congrArg unescape h
    rw [List.flatMap_cons, List.flatMap_cons, List.append_assoc, List.append_assoc,
      unescape_escapeChar, unescape_escapeChar] at hread
    obtain ⟨rfl, htail⟩ := Prod.mk.inj (Option.some_inj.mp hread)
    rw [flatMap_escapeChar_injective htail]

/-- **Different texts are quoted differently.** -/
theorem dumpsText_injective {s t : String} (h : dumpsText false s = dumpsText false t) :
    s = t := by
  have hchars := congrArg String.toList h
  rw [toList_dumpsText, toList_dumpsText] at hchars
  exact String.toList_injective (flatMap_escapeChar_injective (List.cons.inj hchars).2)

/-! ## Values -/

mutual

/-- The literals of the numbers in a value have no quotes and no brackets. -/
def Plain : Json → Prop
  | .float literal _ => ∀ c ∈ literal.toList, PlainChar c
  | .arr l => PlainList l
  | .obj l => PlainEntries l
  | _ => True

def PlainList : List Json → Prop
  | [] => True
  | v :: l => Plain v ∧ PlainList l

def PlainEntries : List (String × Json) → Prop
  | [] => True
  | e :: l => Plain e.2 ∧ PlainEntries l

end

theorem plainChar_of_isDigit {c : Char} (h : c.isDigit = true) : PlainChar c := by
  refine ⟨?_, ?_, ?_, ?_, ?_⟩ <;> rintro rfl <;> exact absurd h (by decide)

theorem plainChar_of_mem_repr {m : ℕ} {c : Char} (hc : c ∈ m.repr.toList) : PlainChar c := by
  rw [Nat.toList_repr] at hc
  exact plainChar_of_isDigit (Nat.isDigit_of_mem_toDigits (by decide) (by decide) hc)

theorem transparent_toString (n : Int) : Transparent (toString n).toList := by
  refine transparent_of_plain ?_
  cases n with
  | ofNat m => exact fun c hc => plainChar_of_mem_repr hc
  | negSucc m =>
    intro c hc
    change c ∈ ("-" ++ (m + 1).repr).toList at hc
    rw [String.toList_append] at hc
    rcases List.mem_append.mp hc with hc | hc
    · rw [List.mem_singleton.mp hc]
      decide
    · exact plainChar_of_mem_repr hc

section Blank

variable {blank : String} (hblank : ∀ c ∈ blank.toList, PlainChar c) (ascii : Bool)

include hblank

theorem transparent_separator {s : String} (hs : ∀ c ∈ s.toList, PlainChar c) :
    Transparent (s ++ blank).toList := by
  rw [String.toList_append]
  exact (transparent_of_plain hs).append (transparent_of_plain hblank)

theorem transparent_comma : Transparent ("," ++ blank).toList :=
  transparent_separator hblank (Text.forall_mem_toList (by decide))

theorem transparent_colon : Transparent (":" ++ blank).toList :=
  transparent_separator hblank (Text.forall_mem_toList (by decide))

omit hblank in
theorem toList_arr (l : List Json) :
    (serialize blank ascii (.arr l)).toList =
      '[' :: ((Text.joinWith ("," ++ blank) (serializeList blank ascii l)).toList ++ [']']) := by
  rw [serialize, String.toList_append, String.toList_append]
  rfl

/-- The entries of a serialized object, in the order in which they are written. -/
def sortedEntries (blank : String) (ascii : Bool) (l : List (String × Json)) :
    List (String × String) :=
  (serializeEntries blank ascii l).insertionSort fun a b => a.1.toList ≤ b.1.toList

/-- The text of an entry. -/
def entryText (blank : String) (ascii : Bool) (e : String × String) : String :=
  dumpsText ascii e.1 ++ (":" ++ blank) ++ e.2

omit hblank in
theorem toList_obj (l : List (String × Json)) :
    (serialize blank ascii (.obj l)).toList =
      '\x7b' :: ((Text.joinWith ("," ++ blank)
        ((sortedEntries blank ascii l).map (entryText blank ascii))).toList ++ ['\x7d']) := by
  rw [serialize, String.toList_append, String.toList_append]
  rfl

theorem transparent_joinWith {l : List String} (h : ∀ s ∈ l, Transparent s.toList) :
    Transparent (Text.joinWith ("," ++ blank) l).toList := by
  rw [Text.toList_joinWith]
  refine transparent_intercalate (transparent_comma hblank) fun s hs => ?_
  obtain ⟨t, ht, rfl⟩ := List.mem_map.mp hs
  exact h t ht

theorem transparent_entryText {e : String × String} (h : Transparent e.2.toList) :
    Transparent (entryText blank ascii e).toList := by
  unfold entryText
  rw [String.toList_append, String.toList_append]
  exact ((transparent_dumpsText ascii e.1).append (transparent_colon hblank)).append h

omit hblank in
theorem mem_sortedEntries {l : List (String × Json)} {e : String × String} :
    e ∈ sortedEntries blank ascii l ↔ e ∈ serializeEntries blank ascii l :=
  List.mem_insertionSort _

theorem transparent_objBody {l : List (String × Json)}
    (h : ∀ e ∈ serializeEntries blank ascii l, Transparent e.2.toList) :
    Transparent (Text.joinWith ("," ++ blank)
      ((sortedEntries blank ascii l).map (entryText blank ascii))).toList := by
  refine transparent_joinWith hblank fun s hs => ?_
  obtain ⟨e, he, rfl⟩ := List.mem_map.mp hs
  exact transparent_entryText hblank ascii (h e ((mem_sortedEntries ascii).mp he))

set_option linter.unusedSectionVars false in
mutual

/-- **A reader inside a container runs over every value.** -/
theorem transparent_serialize :
    ∀ v : Json, v.Plain → Transparent (serialize blank ascii v).toList
  | .null, _ => transparent_of_plain (s := "null".toList) (Text.forall_mem_toList (by decide))
  | .bool true, _ => transparent_of_plain (s := "true".toList) (Text.forall_mem_toList (by decide))
  | .bool false, _ => transparent_of_plain (s := "false".toList) (Text.forall_mem_toList (by decide))
  | .int n, _ => transparent_toString n
  | .float _ _, h => transparent_of_plain h
  | .str s, _ => transparent_dumpsText ascii s
  | .arr l, h => by
    rw [toList_arr]
    exact transparent_brackets (Or.inl ⟨rfl, rfl⟩)
      (transparent_joinWith hblank (transparent_serializeList l h))
  | .obj l, h => by
    rw [toList_obj]
    exact transparent_brackets (Or.inr ⟨rfl, rfl⟩)
      (transparent_objBody hblank ascii (transparent_serializeEntries l h))

theorem transparent_serializeList :
    ∀ l : List Json, PlainList l → ∀ s ∈ serializeList blank ascii l, Transparent s.toList
  | [], _, s, hs => nomatch hs
  | v :: l, h, s, hs => by
    rcases List.mem_cons.mp hs with rfl | hs
    · exact transparent_serialize v h.1
    · exact transparent_serializeList l h.2 s hs

theorem transparent_serializeEntries :
    ∀ l : List (String × Json), PlainEntries l →
      ∀ e ∈ serializeEntries blank ascii l, Transparent e.2.toList
  | [], _, e, he => nomatch he
  | (k, v) :: l, h, e, he => by
    rcases List.mem_cons.mp he with rfl | he
    · exact transparent_serialize v h.1
    · exact transparent_serializeEntries l h.2 e he

end

theorem closed_serialize_arr {l : List Json} (h : PlainList l) :
    Closed (serialize blank ascii (.arr l)).toList := by
  rw [toList_arr]
  exact closed_brackets (Or.inl ⟨rfl, rfl⟩)
    (transparent_joinWith hblank (transparent_serializeList hblank ascii l h))

theorem closed_serialize_obj {l : List (String × Json)} (h : PlainEntries l) :
    Closed (serialize blank ascii (.obj l)).toList := by
  rw [toList_obj]
  exact closed_brackets (Or.inr ⟨rfl, rfl⟩)
    (transparent_objBody hblank ascii (transparent_serializeEntries hblank ascii l h))

/-! ## What a serialized container determines -/

section Join

variable {p : List Char → Prop} {sep : List Char} {closing : Char}

omit hblank in
theorem intercalate_cons (s : List Char) (l : List (List Char)) :
    sep.intercalate (s :: l) = s ++ l.flatMap (sep ++ ·) := by
  induction l generalizing s with
  | nil => rw [List.intercalate_singleton, List.flatMap_nil, List.append_nil]
  | cons t l ih =>
    rw [List.intercalate_cons_cons, ih, List.flatMap_cons, List.append_assoc, List.append_assoc]

omit hblank in
theorem flatMap_inj (hp : ∀ u v s t, p u → p v → u ++ s = v ++ t → u = v)
    (hsep : ∀ s t, sep ++ s ≠ closing :: t) :
    ∀ {l l' : List (List Char)}, (∀ u ∈ l, p u) → (∀ u ∈ l', p u) →
      l.flatMap (sep ++ ·) ++ [closing] = l'.flatMap (sep ++ ·) ++ [closing] → l = l'
  | [], [], _, _, _ => rfl
  | [], v :: l', _, _, h => by
    rw [List.flatMap_cons, List.append_assoc, List.append_assoc] at h
    exact absurd h.symm (hsep _ [])
  | u :: l, [], _, _, h => by
    rw [List.flatMap_cons, List.append_assoc, List.append_assoc] at h
    exact absurd h (hsep _ [])
  | u :: l, v :: l', hl, hl', h => by
    rw [List.flatMap_cons, List.flatMap_cons, List.append_assoc, List.append_assoc,
      List.append_assoc, List.append_assoc] at h
    have htail := List.append_cancel_left h
    obtain rfl := hp u v _ _ (hl u List.mem_cons_self) (hl' v List.mem_cons_self) htail
    rw [flatMap_inj hp hsep (fun x hx => hl x (List.mem_cons_of_mem _ hx))
      (fun x hx => hl' x (List.mem_cons_of_mem _ hx)) (List.append_cancel_left htail)]

omit hblank in
/-- Two joined lists of texts, each followed by a closing bracket, have the same entries, when the
entries can be told apart from what follows them. -/
theorem intercalate_inj (hp : ∀ u v s t, p u → p v → u ++ s = v ++ t → u = v)
    (hne : ∀ u s t, p u → u ++ s ≠ closing :: t) (hsep : ∀ s t, sep ++ s ≠ closing :: t) :
    ∀ {l l' : List (List Char)}, (∀ u ∈ l, p u) → (∀ u ∈ l', p u) →
      sep.intercalate l ++ [closing] = sep.intercalate l' ++ [closing] → l = l'
  | [], [], _, _, _ => rfl
  | [], v :: l', _, hl', h => by
    rw [List.intercalate_nil, List.nil_append, intercalate_cons, List.append_assoc] at h
    exact absurd h.symm (hne v _ [] (hl' v List.mem_cons_self))
  | u :: l, [], hl, _, h => by
    rw [List.intercalate_nil, List.nil_append, intercalate_cons, List.append_assoc] at h
    exact absurd h (hne u _ [] (hl u List.mem_cons_self))
  | u :: l, v :: l', hl, hl', h => by
    rw [intercalate_cons, intercalate_cons, List.append_assoc, List.append_assoc] at h
    obtain rfl := hp u v _ _ (hl u List.mem_cons_self) (hl' v List.mem_cons_self) h
    rw [flatMap_inj hp hsep (fun x hx => hl x (List.mem_cons_of_mem _ hx))
      (fun x hx => hl' x (List.mem_cons_of_mem _ hx)) (List.append_cancel_left h)]

end Join

omit hblank in
theorem comma_append_ne {closing : Char} (h : closing ≠ ',') (s t : List Char) :
    ("," ++ blank).toList ++ s ≠ closing :: t := by
  rw [String.toList_append, List.append_assoc]
  exact fun he => h (List.cons.inj he).1.symm

omit hblank in
/-- **The items of a serialized array**, where they are closed. -/
theorem serializeList_of_serialize_arr {l l' : List Json}
    (hl : ∀ s ∈ serializeList blank ascii l, Closed s.toList)
    (hl' : ∀ s ∈ serializeList blank ascii l', Closed s.toList)
    (h : serialize blank ascii (.arr l) = serialize blank ascii (.arr l')) :
    serializeList blank ascii l = serializeList blank ascii l' := by
  have hchars := congrArg String.toList h
  rw [toList_arr, toList_arr] at hchars
  have hbody := (List.cons.inj hchars).2
  rw [Text.toList_joinWith, Text.toList_joinWith] at hbody
  have hlists := intercalate_inj (p := Closed) (fun u v s t hu hv he => (hu.append_inj hv he).1)
    (fun u s t hu => hu.append_ne_cons (Or.inl rfl)) (comma_append_ne (by decide))
    (fun u hu => (List.mem_map.mp hu).elim fun s hs => hs.2 ▸ hl s hs.1)
    (fun u hu => (List.mem_map.mp hu).elim fun s hs => hs.2 ▸ hl' s hs.1) hbody
  exact List.map_injective_iff.mpr (fun _ _ => String.toList_injective) hlists

omit hblank in
/-- The entries of a serialized object can be told apart from what follows them. -/
theorem entryText_append_inj {e e' : String × String} (he : Closed e.2.toList)
    (he' : Closed e'.2.toList) {s t : List Char}
    (h : (entryText blank false e).toList ++ s = (entryText blank false e').toList ++ t) :
    e = e' := by
  unfold entryText at h
  simp only [String.toList_append, List.append_assoc] at h
  obtain ⟨hkey, hrest⟩ := (closed_dumpsText false e.1).append_inj (closed_dumpsText false e'.1) h
  have hvalue := List.append_cancel_left (List.append_cancel_left hrest)
  exact Prod.ext (dumpsText_injective (String.toList_injective hkey))
    (String.toList_injective (he.append_inj he' hvalue).1)

omit hblank in
theorem entryText_append_ne {e : String × String} {c : Char} (hc : c = ']' ∨ c = '\x7d')
    (s t : List Char) : (entryText blank ascii e).toList ++ s ≠ c :: t := by
  unfold entryText
  rw [String.toList_append, String.toList_append, List.append_assoc, List.append_assoc]
  exact (closed_dumpsText ascii e.1).append_ne_cons hc

omit hblank in
/-- **The entries of a serialized object**, where they are closed. -/
theorem perm_of_serialize_obj {l l' : List (String × Json)}
    (hl : ∀ e ∈ serializeEntries blank false l, Closed e.2.toList)
    (hl' : ∀ e ∈ serializeEntries blank false l', Closed e.2.toList)
    (h : serialize blank false (.obj l) = serialize blank false (.obj l')) :
    (serializeEntries blank false l).Perm (serializeEntries blank false l') := by
  have hchars := congrArg String.toList h
  rw [toList_obj, toList_obj] at hchars
  have hbody := (List.cons.inj hchars).2
  rw [Text.toList_joinWith, Text.toList_joinWith, List.map_map, List.map_map] at hbody
  let text : String × String → List Char := String.toList ∘ entryText blank false
  have hlists := intercalate_inj
    (p := fun u => ∃ e : String × String, Closed e.2.toList ∧ text e = u)
    (fun _ _ s t ⟨e, he, hu⟩ ⟨e', he', hv⟩ hst => by
      rw [← hu, ← hv] at hst ⊢
      rw [entryText_append_inj he he' hst])
    (fun _ s t ⟨e, _, hu⟩ => hu ▸ entryText_append_ne false (Or.inr rfl) s t)
    (comma_append_ne (by decide))
    (fun u hu => (List.mem_map.mp hu).elim fun e he =>
      ⟨e, hl e ((mem_sortedEntries false).mp he.1), he.2⟩)
    (fun u hu => (List.mem_map.mp hu).elim fun e he =>
      ⟨e, hl' e ((mem_sortedEntries false).mp he.1), he.2⟩) hbody
  have hsorted : sortedEntries blank false l = sortedEntries blank false l' := by
    have hid := StableSort.map_congr_of_map_eq (f := id) hlists fun e he e' he' hee => by
      have heq : text e ++ [] = text e' ++ [] := by rw [hee]
      exact entryText_append_inj (hl e ((mem_sortedEntries false).mp he))
        (hl' e' ((mem_sortedEntries false).mp he')) heq
    rwa [List.map_id, List.map_id] at hid
  have hperm : ∀ l, (sortedEntries blank false l).Perm (serializeEntries blank false l) :=
    fun l => List.perm_insertionSort _ _
  exact (hperm l).symm.trans (hsorted ▸ hperm l')

end Blank

/-! ## Entries that are put -/

section Put

variable {d : List (String × Json)} {name key : String}

/-- An entry that was put is found. -/
theorem get?_put_self (d : List (String × Json)) (name : String) (v : Json) :
    (Json.obj (put d name v)).get? name = some v := by
  have hsame : ((fun e : String × Json => e.1 == name) ∘
      fun e => if (e.1 == name) = true then (name, v) else e) = fun e => e.1 == name := by
    funext e
    rw [Function.comp_apply]
    split_ifs with h
    · rw [h, beq_self_eq_true]
    · rfl
  unfold put get?
  dsimp only
  rw [apply_ite (List.find? fun e : String × Json => e.1 == name), List.find?_map, hsame,
    List.find?_append, List.find?_singleton, if_pos (beq_self_eq_true name)]
  cases hfound : d.find? (fun e => e.1 == name) with
  | none =>
    have hany : ¬ (d.any fun e => e.1 == name) = true := fun h => by
      obtain ⟨e, he, hname⟩ := List.any_eq_true.mp h
      exact absurd hname (List.find?_eq_none.mp hfound e he)
    rw [if_neg hany]
    rfl
  | some e =>
    have hname := List.find?_some hfound
    have hany : (d.any fun e => e.1 == name) = true :=
      List.any_eq_true.mpr ⟨e, List.mem_of_find?_eq_some hfound, hname⟩
    rw [if_pos hany, Option.map_some, if_pos hname]
    rfl

/-- The other entries stay. -/
theorem get?_put_of_ne (h : name ≠ key) (v : Json) :
    (Json.obj (put d key v)).get? name = (Json.obj d).get? name := by
  have hsame : ((fun e : String × Json => e.1 == name) ∘
      fun e => if (e.1 == key) = true then (key, v) else e) = fun e => e.1 == name := by
    funext e
    rw [Function.comp_apply]
    split_ifs with he
    · rw [beq_iff_eq.mp he]
    · rfl
  unfold put get?
  dsimp only
  split_ifs
  · rw [List.find?_map, hsame, Option.map_map]
    cases hfound : d.find? (fun e => e.1 == name) with
    | none => rfl
    | some e =>
      have hname := List.find?_some hfound
      have hne : ¬ (e.1 == key) = true := fun he =>
        h ((beq_iff_eq.mp hname).symm.trans (beq_iff_eq.mp he))
      rw [Option.map_some, Function.comp_apply, if_neg hne]
      rfl
  · have hne : ¬ (key == name) = true := fun he => h (beq_iff_eq.mp he).symm
    rw [List.find?_append, List.find?_singleton, if_neg hne, Option.or_none]

/-- The names after an entry was put. -/
theorem map_fst_put (d : List (String × Json)) (name : String) (v : Json) :
    (put d name v).map Prod.fst =
      if name ∈ d.map Prod.fst then d.map Prod.fst else d.map Prod.fst ++ [name] := by
  have hany : (d.any fun e => e.1 == name) = true ↔ name ∈ d.map Prod.fst := by
    rw [List.any_eq_true, List.mem_map]
    simp only [beq_iff_eq]
  unfold put
  by_cases h : name ∈ d.map Prod.fst
  · rw [if_pos h, if_pos (hany.mpr h), List.map_map]
    refine List.map_congr_left fun e _ => ?_
    rw [Function.comp_apply]
    split_ifs with he
    · exact (beq_iff_eq.mp he).symm
    · rfl
  · rw [if_neg h, if_neg (mt hany.mp h), List.map_append, List.map_singleton]

theorem nodup_names_put (hd : (d.map Prod.fst).Nodup) (name : String) (v : Json) :
    ((put d name v).map Prod.fst).Nodup := by
  rw [map_fst_put]
  split_ifs with h
  · exact hd
  · rw [← List.concat_eq_append]
    exact hd.concat h

/-- An entry that is there can be put again. -/
theorem put_of_mem (hd : (d.map Prod.fst).Nodup) {e : String × Json} (h : e ∈ d) :
    put d e.1 e.2 = d := by
  have hany : (d.any fun other => other.1 == e.1) = true :=
    List.any_eq_true.mpr ⟨e, h, beq_self_eq_true e.1⟩
  unfold put
  rw [if_pos hany]
  refine (List.map_congr_left fun other hother => ?_).trans (List.map_id d)
  split_ifs with hname
  · exact List.inj_on_of_nodup_map hd h hother (beq_iff_eq.mp hname).symm
  · rfl

theorem foldl_put_of_subset (hd : (d.map Prod.fst).Nodup) {l : List (String × Json)}
    (h : l ⊆ d) : l.foldl (fun d e => put d e.1 e.2) d = d := by
  induction l with
  | nil => rfl
  | cons e l ih =>
    obtain ⟨he, hl⟩ := List.cons_subset.mp h
    rw [List.foldl_cons, put_of_mem hd he]
    exact ih hl

end Put

/-! ## Reading from the end -/

theorem quote_notMem_unicodeEscape (n : ℕ) : '"' ∉ unicodeEscape n := by
  have hhex : ∀ m, ¬ '"' = hexDigit m := fun m => (hexDigit_ne m).2.symm
  have hu : ('"' : Char) ≠ 'u' := by decide
  have hbackslash : ('"' : Char) ≠ '\\' := by decide
  simp only [unicodeEscape, List.mem_cons, hu, hbackslash, hhex, List.not_mem_nil, or_false,
    not_false_eq_true]

/-- Only a quote is quoted with a quote. -/
theorem quote_notMem_escapeChar {c : Char} (h : c ≠ '"') : '"' ∉ escapeChar false c := by
  have hpair : ∀ d : Char, ¬ '"' = d → '"' ∉ ['\\', d] := fun d hd => by
    simp [hd]
  unfold escapeChar
  dsimp only
  rw [if_neg h]
  split
  · exact hpair _ (by decide)
  · split
    · exact hpair _ (by decide)
    · split
      · exact hpair _ (by decide)
      · split
        · exact hpair _ (by decide)
        · split
          · exact hpair _ (by decide)
          · split
            · exact hpair _ (by decide)
            · split
              · exact quote_notMem_unicodeEscape _
              · rw [if_neg (by simp)]
                exact fun hmem => h (List.mem_singleton.mp hmem).symm

theorem escapeChar_quote : escapeChar false '"' = ['\\', '"'] := by
  decide

/-- The text behind an opening quote does not start with a quote. -/
theorem flatMap_escapeChar_ne_quote (s b : List Char) :
    s.flatMap (escapeChar false) ≠ '"' :: b := by
  intro h
  cases s with
  | nil => cases h
  | cons c s =>
    have hread := unescape_escapeChar c (s.flatMap (escapeChar false))
    rw [← List.flatMap_cons, h] at hread
    cases hread

/-- No quote inside a quoted text stands behind a blank. -/
theorem flatMap_escapeChar_ne (s a b : List Char) :
    s.flatMap (escapeChar false) ≠ a ++ ' ' :: '"' :: b := by
  induction s generalizing a with
  | nil =>
    intro h
    exact List.append_ne_nil_of_right_ne_nil a (List.cons_ne_nil ' ' ('"' :: b)) h.symm
  | cons c s ih =>
    intro h
    rw [List.flatMap_cons] at h
    rcases List.append_eq_append_iff.mp h with ⟨a', -, hrest⟩ | ⟨d, hc, hrest⟩
    · exact ih a' hrest
    · cases d with
      | nil => exact ih [] hrest.symm
      | cons x d =>
        obtain ⟨rfl, htail⟩ := List.cons.inj hrest
        cases d with
        | nil => exact flatMap_escapeChar_ne_quote s b htail.symm
        | cons y d =>
          obtain ⟨rfl, -⟩ := List.cons.inj htail
          by_cases hquote : c = '"'
          · rw [hquote, escapeChar_quote] at hc
            rcases List.append_eq_cons_iff.mp hc.symm with ⟨-, hblank⟩ | ⟨a', -, hpair⟩
            · exact absurd (List.cons.inj hblank).1 (by decide)
            · have hlength := congrArg List.length hpair
              rw [List.length_append, List.length_singleton, List.length_cons,
                List.length_cons] at hlength
              omega
          · refine quote_notMem_escapeChar hquote ?_
            rw [hc]
            simp

/-- Of two quoted texts at the end of a text, none starts before the other. -/
theorem flatMap_escapeChar_of_append {d s t : List Char}
    (h : ' ' :: '"' :: s.flatMap (escapeChar false) =
      d ++ ' ' :: '"' :: t.flatMap (escapeChar false)) :
    s.flatMap (escapeChar false) = t.flatMap (escapeChar false) := by
  cases d with
  | nil => exact (List.cons.inj (List.cons.inj h).2).2
  | cons x d =>
    have htail := (List.cons.inj h).2
    cases d with
    | nil => exact absurd (List.cons.inj htail).1 (by decide)
    | cons y d => exact absurd (List.cons.inj htail).2 (flatMap_escapeChar_ne s d _)

/-- **The quoted text at the end of a text can be read from there**, when a blank is in front. -/
theorem append_dumpsText_inj {u v : List Char} {s t : String}
    (h : u ++ ' ' :: (dumpsText false s).toList = v ++ ' ' :: (dumpsText false t).toList) :
    s = t := by
  rw [toList_dumpsText, toList_dumpsText] at h
  have hcut : u ++ ' ' :: '"' :: s.toList.flatMap (escapeChar false) =
      v ++ ' ' :: '"' :: t.toList.flatMap (escapeChar false) := by
    have hclosed : (u ++ ' ' :: '"' :: s.toList.flatMap (escapeChar false)) ++ ['"'] =
        (v ++ ' ' :: '"' :: t.toList.flatMap (escapeChar false)) ++ ['"'] := by
      rw [List.append_assoc, List.append_assoc]
      exact h
    exact List.append_cancel_right hclosed
  have hbody : s.toList.flatMap (escapeChar false) = t.toList.flatMap (escapeChar false) := by
    rcases List.append_eq_append_iff.mp hcut with ⟨d, -, hrest⟩ | ⟨d, -, hrest⟩
    · exact flatMap_escapeChar_of_append hrest
    · exact (flatMap_escapeChar_of_append hrest).symm
  exact String.toList_injective (flatMap_escapeChar_injective (congrArg (· ++ ['"']) hbody))

end Json
