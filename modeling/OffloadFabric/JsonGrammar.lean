import OffloadFabric.BigEndian

/-!
JSON documents over bytes. `Renders value text` says that `text` is a document
without space between its tokens whose numbers are integers, and that `value`
is what it stands for; strings stand for byte strings. A text stands for one
value only, also when more text follows it.
-/
namespace OffloadFabric

/-- What a document stands for. -/
inductive Json where
  | null
  | bool (value : Bool)
  | number (value : Int)
  | text (value : Bytes)
  | array (elements : List Json)
  | object (members : List (Bytes × Json))

namespace Json

def IsDigit (c : UInt8) : Prop := 48 ≤ c ∧ c ≤ 57

instance (c : UInt8) : Decidable (IsDigit c) := inferInstanceAs (Decidable (_ ∧ _))

def digitsValue (text : Bytes) : Nat := text.foldl (fun n c => 10 * n + (c.toNat - 48)) 0

/-- A natural number in base ten, without leading zeros. -/
structure Digits (n : Nat) (text : Bytes) : Prop where
  nonempty : text ≠ []
  digits : ∀ c ∈ text, IsDigit c
  leading : text.head? = some 48 → text = [48]
  value : digitsValue text = n

inductive Numeral : Int → Bytes → Prop
  | natural {n text} : Digits n text → Numeral n text
  | negative {n text} : Digits n text → Numeral (-n) (45 :: text)

/-- The byte that a backslash and this letter stand for. -/
def escapes (letter : UInt8) : Option UInt8 :=
  if letter = 34 ∨ letter = 92 ∨ letter = 47 then some letter
  else if letter = 98 then some 8
  else if letter = 102 then some 12
  else if letter = 110 then some 10
  else if letter = 114 then some 13
  else if letter = 116 then some 9
  else none

def hexValue (c : UInt8) : Option UInt8 :=
  if 48 ≤ c ∧ c ≤ 57 then some (c - 48)
  else if 97 ≤ c ∧ c ≤ 102 then some (c - 87)
  else if 65 ≤ c ∧ c ≤ 70 then some (c - 55)
  else none

/-- The text between the quotes of a string, and the bytes it stands for. -/
inductive Chars : Bytes → Bytes → Prop
  | nil : Chars [] []
  | plain {c value text} : 0x20 ≤ c → c < 0x80 → c ≠ 34 → c ≠ 92 → Chars value text →
      Chars (c :: value) (c :: text)
  | escape {c letter value text} : escapes letter = some c → Chars value text →
      Chars (c :: value) (92 :: letter :: text)
  | unicode {high low a b value text} : hexValue high = some a → hexValue low = some b →
      Chars value text →
      Chars ((a <<< 4 ||| b) :: value) (92 :: 117 :: 48 :: 48 :: high :: low :: text)

mutual

inductive Renders : Json → Bytes → Prop
  | null : Renders null [110, 117, 108, 108]
  | yes : Renders (bool true) [116, 114, 117, 101]
  | no : Renders (bool false) [102, 97, 108, 115, 101]
  | number {n text} : Numeral n text → Renders (number n) text
  | text {value chars} : Chars value chars → Renders (text value) (34 :: (chars ++ [34]))
  | array {elements text} : Elements elements text → Renders (array elements) (91 :: (text ++ [93]))
  | object {members text} : Members members text → Renders (object members) (123 :: (text ++ [125]))

inductive Elements : List Json → Bytes → Prop
  | nil : Elements [] []
  | one {value text} : Renders value text → Elements [value] text
  | more {value text next rest text'} : Renders value text → Elements (next :: rest) text' →
      Elements (value :: next :: rest) (text ++ 44 :: text')

inductive Members : List (Bytes × Json) → Bytes → Prop
  | nil : Members [] []
  | one {key chars value text} : Chars key chars → Renders value text →
      Members [(key, value)] (34 :: (chars ++ 34 :: 58 :: text))
  | more {key chars value text next rest text'} : Chars key chars → Renders value text →
      Members (next :: rest) text' →
      Members ((key, value) :: next :: rest) (34 :: (chars ++ 34 :: 58 :: (text ++ 44 :: text')))

end

/-- Text at which a number before it ends. -/
def Ends (rest : Bytes) : Prop := ∀ c, rest.head? = some c → ¬ IsDigit c

theorem ends_cons {c : UInt8} {rest : Bytes} (h : ¬ IsDigit c) : Ends (c :: rest) := by
  intro d hd
  simp only [List.head?_cons, Option.some.injEq] at hd
  exact hd ▸ h

theorem ends_nil : Ends [] := by
  intro c hc
  simp at hc

/-- Two runs of digits at the front of one text are the same run. -/
theorem digits_unique {text text' s t : Bytes} (hd : ∀ c ∈ text, IsDigit c)
    (hd' : ∀ c ∈ text', IsDigit c) (hs : Ends s) (ht : Ends t) (h : text ++ s = text' ++ t) :
    text = text' ∧ s = t := by
  induction text generalizing text' with
  | nil =>
    cases text' with
    | nil => exact ⟨rfl, h⟩
    | cons c rest =>
      have hc : s.head? = some c := by
        rw [List.nil_append] at h
        rw [h, List.cons_append, List.head?_cons]
      exact absurd (hd' c (by simp)) (hs c hc)
  | cons c rest ih =>
    cases text' with
    | nil =>
      have hc : t.head? = some c := by
        rw [List.nil_append] at h
        rw [← h, List.cons_append, List.head?_cons]
      exact absurd (hd c (by simp)) (ht c hc)
    | cons c' rest' =>
      simp only [List.cons_append, List.cons.injEq] at h
      obtain ⟨rfl, hrest⟩ := h
      obtain ⟨rfl, hend⟩ := ih (fun d hd₁ => hd d (by simp [hd₁]))
        (fun d hd₁ => hd' d (by simp [hd₁])) hrest
      exact ⟨rfl, hend⟩

/-- A number starts with a minus sign or a digit. -/
theorem Numeral.head {n : Int} {text : Bytes} (h : Numeral n text) :
    ∃ c rest, text = c :: rest ∧ (c = 45 ∨ IsDigit c) := by
  cases h with
  | natural hn =>
    obtain ⟨c, rest, rfl⟩ := List.exists_cons_of_ne_nil hn.nonempty
    exact ⟨c, rest, rfl, Or.inr (hn.digits c (by simp))⟩
  | negative hn => exact ⟨45, _, rfl, Or.inl rfl⟩

theorem Numeral.unique {n m : Int} {text text' s t : Bytes} (h : Numeral n text)
    (h' : Numeral m text') (hs : Ends s) (ht : Ends t) (heq : text ++ s = text' ++ t) :
    n = m ∧ s = t := by
  have signed : ∀ {k : Nat} {digits more less : Bytes}, Digits k digits →
      digits ++ more ≠ 45 :: less := by
    intro k digits more less hk heq
    obtain ⟨c, rest, rfl⟩ := List.exists_cons_of_ne_nil hk.nonempty
    simp only [List.cons_append, List.cons.injEq] at heq
    have hc := hk.digits c (by simp)
    rw [heq.1] at hc
    exact absurd hc (by decide)
  cases h with
  | natural hn =>
    cases h' with
    | natural hm =>
      obtain ⟨rfl, hst⟩ := digits_unique hn.digits hm.digits hs ht heq
      exact ⟨by rw [← hn.value, hm.value], hst⟩
    | negative hm => exact absurd heq (signed hn)
  | negative hn =>
    cases h' with
    | natural hm => exact absurd heq.symm (signed hm)
    | negative hm =>
      simp only [List.cons_append, List.cons.injEq, true_and] at heq
      obtain ⟨rfl, hst⟩ := digits_unique hn.digits hm.digits hs ht heq
      exact ⟨by rw [← hn.value, hm.value], hst⟩

/-- A string ends at its first quote that no backslash escapes. -/
theorem Chars.unique {value value' text text' s t : Bytes} (h : Chars value text)
    (h' : Chars value' text') (heq : text ++ 34 :: s = text' ++ 34 :: t) :
    value = value' ∧ s = t := by
  induction h generalizing value' text' with
  | nil =>
    cases h' with
    | nil => exact ⟨rfl, by simpa using heq⟩
    | plain _ _ hquote _ _ => simp_all
    | escape => simp at heq
    | unicode => simp at heq
  | plain _ _ hquote hslash _ ih =>
    cases h' with
    | nil => simp_all
    | plain _ _ _ _ hrest =>
      simp only [List.cons_append, List.cons.injEq] at heq
      obtain ⟨rfl, rfl⟩ := ih hrest heq.2
      exact ⟨by rw [heq.1], rfl⟩
    | escape => simp_all
    | unicode => simp_all
  | escape hletter _ ih =>
    cases h' with
    | nil => simp at heq
    | plain _ _ _ hslash _ => simp_all
    | escape hletter' hrest =>
      simp only [List.cons_append, List.cons.injEq, true_and] at heq
      obtain ⟨rfl, rfl⟩ := ih hrest heq.2
      rw [heq.1, hletter'] at hletter
      exact ⟨by rw [Option.some.inj hletter], rfl⟩
    | unicode =>
      simp only [List.cons_append, List.cons.injEq, true_and] at heq
      rw [heq.1] at hletter
      simp [escapes] at hletter
  | unicode hhigh hlow _ ih =>
    cases h' with
    | nil => simp at heq
    | plain _ _ _ hslash _ => simp_all
    | escape hletter =>
      simp only [List.cons_append, List.cons.injEq, true_and] at heq
      rw [← heq.1] at hletter
      simp [escapes] at hletter
    | unicode hhigh' hlow' hrest =>
      simp only [List.cons_append, List.cons.injEq, true_and] at heq
      obtain ⟨rfl, rfl, hmore⟩ := heq
      obtain ⟨rfl, rfl⟩ := ih hrest hmore
      rw [hhigh'] at hhigh
      rw [hlow'] at hlow
      rw [Option.some.inj hhigh, Option.some.inj hlow]
      exact ⟨rfl, rfl⟩

/-- The first byte of a value's text tells its kind. -/
def Starts : Json → UInt8 → Prop
  | null, c => c = 110
  | bool true, c => c = 116
  | bool false, c => c = 102
  | number _, c => c = 45 ∨ IsDigit c
  | text _, c => c = 34
  | array _, c => c = 91
  | object _, c => c = 123

theorem Renders.head {value : Json} {text : Bytes} (h : Renders value text) :
    ∃ c rest, text = c :: rest ∧ Starts value c := by
  cases h with
  | null => exact ⟨_, _, rfl, rfl⟩
  | yes => exact ⟨_, _, rfl, rfl⟩
  | no => exact ⟨_, _, rfl, rfl⟩
  | number hn => exact hn.head
  | text => exact ⟨_, _, rfl, rfl⟩
  | array => exact ⟨_, _, rfl, rfl⟩
  | object => exact ⟨_, _, rfl, rfl⟩

/-- No value starts with a byte that ends one. -/
theorem Starts.not_closing {value : Json} {c : UInt8} (h : Starts value c) :
    c ≠ 93 ∧ c ≠ 44 ∧ c ≠ 125 := by
  have digits : ∀ d : UInt8, d = 45 ∨ IsDigit d → d ≠ 93 ∧ d ≠ 44 ∧ d ≠ 125 := by
    rintro d hd
    refine ⟨?_, ?_, ?_⟩ <;> rintro rfl <;> exact absurd hd (by decide)
  cases value with
  | number n => exact digits c h
  | bool value => cases value <;> rw [show c = _ from h] <;> decide
  | _ => rw [show c = _ from h]; decide

theorem Renders.starts {value : Json} {text rest t : Bytes} {c : UInt8}
    (h : Renders value text) (heq : c :: rest = text ++ t) : Starts value c := by
  obtain ⟨d, more, rfl, hd⟩ := h.head
  simp only [List.cons_append, List.cons.injEq] at heq
  exact heq.1 ▸ hd

theorem ends_comma (rest : Bytes) : Ends (44 :: rest) := ends_cons (by decide)

/-- The elements of an array are empty when its closing bracket comes first. -/
theorem Elements.nil_of_closing {elements : List Json} {text s t : Bytes}
    (h : Elements elements text) (heq : 93 :: s = text ++ t) : elements = [] := by
  cases h with
  | nil => rfl
  | one hv => exact absurd rfl (hv.starts heq).not_closing.1
  | more hv _ =>
    rw [List.append_assoc] at heq
    exact absurd rfl (hv.starts heq).not_closing.1

mutual

/-- A text is the text of one value, and ends at one place. -/
theorem Renders.unique {value value' : Json} {text text' s t : Bytes} (h : Renders value text)
    (h' : Renders value' text') (heq : text ++ s = text' ++ t) (hs : Ends s) (ht : Ends t) :
    value = value' ∧ s = t := by
  cases h with
  | null =>
    have hstart := h'.starts heq
    cases h' <;> simp_all [Starts, IsDigit]
  | yes =>
    have hstart := h'.starts heq
    cases h' <;> simp_all [Starts, IsDigit]
  | no =>
    have hstart := h'.starts heq
    cases h' <;> simp_all [Starts, IsDigit]
  | number hn =>
    obtain ⟨c, rest, rfl, hc⟩ := hn.head
    have hstart := h'.starts heq
    cases h' with
    | number hm =>
      obtain ⟨rfl, rfl⟩ := hn.unique hm hs ht heq
      exact ⟨rfl, rfl⟩
    | _ => simp_all [Starts, IsDigit]
  | text hchars =>
    have hstart := h'.starts heq
    cases h' with
    | text hchars' =>
      simp only [List.cons_append, List.cons.injEq, true_and, List.append_assoc,
        List.nil_append] at heq
      obtain ⟨rfl, rfl⟩ := hchars.unique hchars' heq
      exact ⟨rfl, rfl⟩
    | _ => simp_all [Starts, IsDigit]
  | array helements =>
    have hstart := h'.starts heq
    cases h' with
    | array helements' =>
      simp only [List.cons_append, List.cons.injEq, true_and, List.append_assoc,
        List.nil_append] at heq
      obtain ⟨rfl, rfl⟩ := helements.unique helements' heq
      exact ⟨rfl, rfl⟩
    | _ => simp_all [Starts, IsDigit]
  | object hmembers =>
    have hstart := h'.starts heq
    cases h' with
    | object hmembers' =>
      simp only [List.cons_append, List.cons.injEq, true_and, List.append_assoc,
        List.nil_append] at heq
      obtain ⟨rfl, rfl⟩ := hmembers.unique hmembers' heq
      exact ⟨rfl, rfl⟩
    | _ => simp_all [Starts, IsDigit]

theorem Elements.unique {elements elements' : List Json} {text text' s t : Bytes}
    (h : Elements elements text) (h' : Elements elements' text')
    (heq : text ++ 93 :: s = text' ++ 93 :: t) : elements = elements' ∧ s = t := by
  cases h with
  | nil =>
    obtain rfl := h'.nil_of_closing heq
    cases h'
    exact ⟨rfl, by simpa using heq⟩
  | one hv =>
    cases h' with
    | nil => exact absurd (Elements.nil_of_closing (.one hv) heq.symm) (by simp)
    | one hv' =>
      obtain ⟨rfl, hst⟩ := hv.unique hv' heq (ends_cons (by decide)) (ends_cons (by decide))
      exact ⟨rfl, by simpa using hst⟩
    | more hv' _ =>
      rw [List.append_assoc] at heq
      have hst := (hv.unique hv' heq (ends_cons (by decide)) (ends_comma _)).2
      simp at hst
  | more hv hmore =>
    rw [List.append_assoc, List.cons_append] at heq
    cases h' with
    | nil => exact absurd rfl (hv.starts heq.symm).not_closing.1
    | one hv' =>
      have hst := (hv.unique hv' heq (ends_comma _) (ends_cons (by decide))).2
      simp at hst
    | more hv' hmore' =>
      rw [List.append_assoc, List.cons_append] at heq
      obtain ⟨rfl, hst⟩ := hv.unique hv' heq (ends_comma _) (ends_comma _)
      simp only [List.cons.injEq, true_and] at hst
      obtain ⟨hrest, rfl⟩ := hmore.unique hmore' hst
      exact ⟨by rw [hrest], rfl⟩

theorem Members.unique {members members' : List (Bytes × Json)} {text text' s t : Bytes}
    (h : Members members text) (h' : Members members' text')
    (heq : text ++ 125 :: s = text' ++ 125 :: t) : members = members' ∧ s = t := by
  cases h with
  | nil =>
    cases h' with
    | nil => exact ⟨rfl, by simpa using heq⟩
    | one => simp at heq
    | more => simp at heq
  | one hkey hv =>
    simp only [List.cons_append, List.append_assoc] at heq
    cases h' with
    | nil => simp at heq
    | one hkey' hv' =>
      simp only [List.cons_append, List.append_assoc, List.cons.injEq, true_and] at heq
      obtain ⟨rfl, hafter⟩ := hkey.unique hkey' heq
      simp only [List.cons.injEq, true_and] at hafter
      obtain ⟨rfl, hst⟩ := hv.unique hv' hafter (ends_cons (by decide)) (ends_cons (by decide))
      exact ⟨rfl, by simpa using hst⟩
    | more hkey' hv' _ =>
      simp only [List.cons_append, List.append_assoc, List.cons.injEq, true_and] at heq
      obtain ⟨rfl, hafter⟩ := hkey.unique hkey' heq
      simp only [List.cons.injEq, true_and] at hafter
      have hst := (hv.unique hv' hafter (ends_cons (by decide)) (ends_comma _)).2
      simp at hst
  | more hkey hv hmore =>
    simp only [List.cons_append, List.append_assoc] at heq
    cases h' with
    | nil => simp at heq
    | one hkey' hv' =>
      simp only [List.cons_append, List.append_assoc, List.cons.injEq, true_and] at heq
      obtain ⟨rfl, hafter⟩ := hkey.unique hkey' heq
      simp only [List.cons.injEq, true_and] at hafter
      have hst := (hv.unique hv' hafter (ends_comma _) (ends_cons (by decide))).2
      simp at hst
    | more hkey' hv' hmore' =>
      simp only [List.cons_append, List.append_assoc, List.cons.injEq, true_and] at heq
      obtain ⟨rfl, hafter⟩ := hkey.unique hkey' heq
      simp only [List.cons.injEq, true_and] at hafter
      obtain ⟨rfl, hst⟩ := hv.unique hv' hafter (ends_comma _) (ends_comma _)
      simp only [List.cons.injEq, true_and] at hst
      obtain ⟨hrest, rfl⟩ := hmore.unique hmore' hst
      exact ⟨by rw [hrest], rfl⟩

end

/-- A document stands for one value. -/
theorem Renders.value_unique {value value' : Json} {text : Bytes} (h : Renders value text)
    (h' : Renders value' text) : value = value' :=
  (h.unique h' rfl ends_nil ends_nil).1

/-- Where a reader of a document stands. -/
inductive Place where
  | outside
  | inside
  | escape

def IsSpace (c : UInt8) : Prop := c = 32 ∨ c = 10 ∨ c = 13 ∨ c = 9

instance (c : UInt8) : Decidable (IsSpace c) := inferInstanceAs (Decidable (_ ∨ _))

/-- Takes out the space outside strings. -/
def withoutSpace : Place → Bytes → Bytes
  | _, [] => []
  | .outside, c :: rest =>
    if IsSpace c then withoutSpace .outside rest
    else c :: withoutSpace (if c = 34 then .inside else .outside) rest
  | .inside, c :: rest =>
    c :: withoutSpace (if c = 34 then .outside else if c = 92 then .escape else .inside) rest
  | .escape, c :: rest => c :: withoutSpace .inside rest

theorem withoutSpace_space {c : UInt8} (rest : Bytes) (h : IsSpace c) :
    withoutSpace .outside (c :: rest) = withoutSpace .outside rest := by
  rw [withoutSpace, if_pos h]

theorem withoutSpace_token {c : UInt8} (rest : Bytes) (h : ¬ IsSpace c ∧ c ≠ 34) :
    withoutSpace .outside (c :: rest) = c :: withoutSpace .outside rest := by
  rw [withoutSpace, if_neg h.1, if_neg h.2]

theorem withoutSpace_spaces {spaces : Bytes} (rest : Bytes) (h : ∀ c ∈ spaces, IsSpace c) :
    withoutSpace .outside (spaces ++ rest) = withoutSpace .outside rest := by
  induction spaces with
  | nil => rfl
  | cons c more ih =>
    rw [List.cons_append, withoutSpace_space _ (h c (by simp))]
    exact ih fun d hd => h d (by simp [hd])

/-- Bytes that are no space and no quote stay. -/
theorem withoutSpace_tokens {tokens : Bytes} (rest : Bytes)
    (h : ∀ c ∈ tokens, ¬ IsSpace c ∧ c ≠ 34) :
    withoutSpace .outside (tokens ++ rest) = tokens ++ withoutSpace .outside rest := by
  induction tokens with
  | nil => rfl
  | cons c more ih =>
    rw [List.cons_append, withoutSpace_token _ (h c (by simp)), ih fun d hd => h d (by simp [hd])]
    rfl

/-- A string stays as it is. -/
theorem Chars.withoutSpace_append {value text : Bytes} (h : Chars value text) (rest : Bytes) :
    withoutSpace .inside (text ++ 34 :: rest) = text ++ 34 :: withoutSpace .outside rest := by
  induction h with
  | nil => simp [withoutSpace]
  | plain _ _ hquote hslash _ ih => simp [withoutSpace, hquote, hslash, ih]
  | escape _ _ ih => simp [withoutSpace, ih]
  | unicode hhigh hlow _ ih =>
    rename_i high low a b value text hchars
    have hex : ∀ {c x : UInt8}, hexValue c = some x → c ≠ 34 ∧ c ≠ 92 := by
      intro c x hc
      refine ⟨?_, ?_⟩ <;> rintro rfl <;> simp [hexValue] at hc
    simp [withoutSpace, hex hhigh, hex hlow, ih]

end Json

end OffloadFabric
