import Mathlib
import RunOperator.Text.Raw

/-!
# Raw text is read as UTF-8

Bytes are a text exactly if they are its UTF-8 (`RawText.text?_ofBytes_iff`). In one direction the
reading loses nothing: its pieces, written down again, are the bytes (`flatMap_bytes_piecesFrom`).
For this a character that has begun must end as the bytes read so far say (`Start.Sound`). In the
other direction the bytes of a character are read as that character and not broken
(`piecesFrom_utf8EncodeChar`). Both rest on the table of what the bytes of a character can be
(`RawText.Encodes`).
-/

namespace RunOperator

/-- The bytes of a piece. -/
def Piece.bytes : Piece → List UInt8
  | .char c => String.utf8EncodeChar c
  | .broken bs => bs

namespace RawText

/-! ### Characters as bytes -/

/-- A byte that may stand within a character. -/
def Continues (b : UInt8) : Prop := 0x80 ≤ b.toNat ∧ b.toNat ≤ 0xbf

/-- The second of three bytes. The bounds leave out codes that need fewer bytes, and surrogates. -/
def SecondOfThree (a b : UInt8) : Prop :=
  Continues b ∧ (a.toNat = 0xe0 → 0xa0 ≤ b.toNat) ∧ (a.toNat = 0xed → b.toNat ≤ 0x9f)

/-- The second of four bytes. The bounds leave out codes that need fewer bytes, and those beyond the
last. -/
def SecondOfFour (a b : UInt8) : Prop :=
  Continues b ∧ (a.toNat = 0xf0 → 0x90 ≤ b.toNat) ∧ (a.toNat = 0xf4 → b.toNat ≤ 0x8f)

/-- The bytes of a character. -/
inductive Encodes : Char → List UInt8 → Prop where
  | one {a : UInt8} (ha : a.toNat ≤ 0x7f) : Encodes (Char.ofNat a.toNat) [a]
  | two {a b : UInt8} (ha : 0xc2 ≤ a.toNat ∧ a.toNat ≤ 0xdf) (hb : Continues b) :
    Encodes (Char.ofNat ((a.toNat - 0xc0) * 64 + (b.toNat - 0x80))) [a, b]
  | three {a b c : UInt8} (ha : 0xe0 ≤ a.toNat ∧ a.toNat ≤ 0xef) (hb : SecondOfThree a b)
    (hc : Continues c) :
    Encodes (Char.ofNat (((a.toNat - 0xe0) * 64 + (b.toNat - 0x80)) * 64 + (c.toNat - 0x80)))
      [a, b, c]
  | four {a b c d : UInt8} (ha : 0xf0 ≤ a.toNat ∧ a.toNat ≤ 0xf4) (hb : SecondOfFour a b)
    (hc : Continues c) (hd : Continues d) :
    Encodes (Char.ofNat ((((a.toNat - 0xf0) * 64 + (b.toNat - 0x80)) * 64 + (c.toNat - 0x80)) * 64 +
      (d.toNat - 0x80))) [a, b, c, d]

private theorem utf8EncodeChar_ofNat {n : Nat} (hn : n.isValidChar) :
    String.utf8EncodeChar (Char.ofNat n) =
      if n ≤ 127 then [UInt8.ofNat n]
      else if n ≤ 2047 then [UInt8.ofNat (n / 64 % 32 + 192), UInt8.ofNat (n % 64 + 128)]
      else if n ≤ 65535 then
        [UInt8.ofNat (n / 4096 % 16 + 224), UInt8.ofNat (n / 64 % 64 + 128),
          UInt8.ofNat (n % 64 + 128)]
      else
        [UInt8.ofNat (n / 262144 % 8 + 240), UInt8.ofNat (n / 4096 % 64 + 128),
          UInt8.ofNat (n / 64 % 64 + 128), UInt8.ofNat (n % 64 + 128)] := by
  have hval : (Char.ofNat n).val.toNat = n := (Char.toNat_ofNat n).trans (if_pos hn)
  rw [String.utf8EncodeChar]
  simp only [hval]

private theorem ofNat_eq {b : UInt8} {n : Nat} (h : n = b.toNat) : UInt8.ofNat n = b := by
  rw [h, UInt8.ofNat_toNat]

/-- Bytes that encode a character are those that the library encodes it as. -/
theorem Encodes.utf8EncodeChar_eq {ch : Char} {bytes : List UInt8} (h : Encodes ch bytes) :
    String.utf8EncodeChar ch = bytes := by
  cases h with
  | one ha => rw [utf8EncodeChar_ofNat (Or.inl (by omega)), if_pos ha, ofNat_eq rfl]
  | @two a b ha hb =>
    unfold Continues at hb
    rw [utf8EncodeChar_ofNat (Or.inl (by omega)), if_neg (by omega), if_pos (by omega),
      ofNat_eq (b := a) (by omega), ofNat_eq (b := b) (by omega)]
  | @three a b c ha hb hc =>
    unfold SecondOfThree at hb
    unfold Continues at hb hc
    rw [utf8EncodeChar_ofNat (by unfold Nat.isValidChar; omega), if_neg (by omega),
      if_neg (by omega), if_pos (by omega), ofNat_eq (b := a) (by omega),
      ofNat_eq (b := b) (by omega), ofNat_eq (b := c) (by omega)]
  | @four a b c d ha hb hc hd =>
    unfold SecondOfFour at hb
    unfold Continues at hb hc hd
    rw [utf8EncodeChar_ofNat (by unfold Nat.isValidChar; omega), if_neg (by omega),
      if_neg (by omega), if_neg (by omega), ofNat_eq (b := a) (by omega),
      ofNat_eq (b := b) (by omega), ofNat_eq (b := c) (by omega), ofNat_eq (b := d) (by omega)]

private theorem exists_byte {n : Nat} (h : n < 256) : ∃ b : UInt8, b.toNat = n :=
  ⟨UInt8.ofNat n, UInt8.toNat_ofNat_of_lt' h⟩

/-- Every character is encoded by some bytes. -/
theorem exists_encodes (ch : Char) : ∃ bytes, Encodes ch bytes := by
  have hvalid : ch.toNat.isValidChar := ch.valid
  rw [← Char.ofNat_toNat ch]
  generalize ch.toNat = n at hvalid
  unfold Nat.isValidChar at hvalid
  by_cases hone : n < 0x80
  · obtain ⟨a, rfl⟩ := exists_byte (n := n) (by omega)
    exact ⟨_, .one (by omega)⟩
  obtain ⟨d, hd⟩ := exists_byte (n := n % 64 + 0x80) (by omega)
  by_cases htwo : n < 0x800
  · obtain ⟨a, ha⟩ := exists_byte (n := n / 64 + 0xc0) (by omega)
    have hn : n = (a.toNat - 0xc0) * 64 + (d.toNat - 0x80) := by omega
    rw [hn]
    exact ⟨_, .two (by omega) (by unfold Continues; omega)⟩
  obtain ⟨c, hc⟩ := exists_byte (n := n / 64 % 64 + 0x80) (by omega)
  by_cases hthree : n < 0x10000
  · obtain ⟨a, ha⟩ := exists_byte (n := n / 4096 + 0xe0) (by omega)
    have hn : n = ((a.toNat - 0xe0) * 64 + (c.toNat - 0x80)) * 64 + (d.toNat - 0x80) := by omega
    rw [hn]
    exact ⟨_, .three (by omega) (by unfold SecondOfThree Continues; omega)
      (by unfold Continues; omega)⟩
  · obtain ⟨b, hb⟩ := exists_byte (n := n / 4096 % 64 + 0x80) (by omega)
    obtain ⟨a, ha⟩ := exists_byte (n := n / 262144 + 0xf0) (by omega)
    have hn : n = (((a.toNat - 0xf0) * 64 + (b.toNat - 0x80)) * 64 + (c.toNat - 0x80)) * 64 +
        (d.toNat - 0x80) := by omega
    rw [hn]
    exact ⟨_, .four (by omega) (by unfold SecondOfFour Continues; omega)
      (by unfold Continues; omega) (by unfold Continues; omega)⟩

/-- What the library encodes a character as are bytes that encode it. -/
theorem encodes_utf8EncodeChar (ch : Char) : Encodes ch (String.utf8EncodeChar ch) := by
  obtain ⟨bytes, h⟩ := exists_encodes ch
  exact h.utf8EncodeChar_eq ▸ h

/-! ### Beginnings -/

variable {a b : UInt8} {rest : List UInt8} {p : Piece} {s t : Start}

/-- What a sequence can begin with, in numbers. -/
theorem beginning_eq (a : UInt8) :
    beginning a =
      if a.toNat ≤ 0x7f then .inl (.char (Char.ofNat a.toNat))
      else if 0xc2 ≤ a.toNat ∧ a.toNat ≤ 0xdf then .inr ⟨[a], a.toNat - 0xc0, 1, 0x80, 0xbf⟩
      else if a.toNat = 0xe0 then .inr ⟨[a], 0, 2, 0xa0, 0xbf⟩
      else if a.toNat = 0xed then .inr ⟨[a], 13, 2, 0x80, 0x9f⟩
      else if 0xe1 ≤ a.toNat ∧ a.toNat ≤ 0xef then .inr ⟨[a], a.toNat - 0xe0, 2, 0x80, 0xbf⟩
      else if a.toNat = 0xf0 then .inr ⟨[a], 0, 3, 0x90, 0xbf⟩
      else if 0xf1 ≤ a.toNat ∧ a.toNat ≤ 0xf3 then .inr ⟨[a], a.toNat - 0xf0, 3, 0x80, 0xbf⟩
      else if a.toNat = 0xf4 then .inr ⟨[a], 4, 3, 0x80, 0x8f⟩
      else .inl (.broken [a]) := by
  simp only [beginning, UInt8.le_iff_toNat_le, ← UInt8.toNat_inj, UInt8.reduceToNat]

private theorem continues_iff : 0x80 ≤ b ∧ b ≤ 0xbf ↔ Continues b := by
  rw [UInt8.le_iff_toNat_le, UInt8.le_iff_toNat_le]
  rfl

/-- A byte below 128 is a character of its own. -/
theorem beginning_one (ha : a.toNat ≤ 0x7f) :
    beginning a = .inl (.char (Char.ofNat a.toNat)) := by
  rw [beginning_eq, if_pos ha]

/-- The first of two bytes asks for one more. -/
theorem beginning_two (ha : 0xc2 ≤ a.toNat ∧ a.toNat ≤ 0xdf) :
    beginning a = .inr ⟨[a], a.toNat - 0xc0, 1, 0x80, 0xbf⟩ := by
  rw [beginning_eq, if_neg (by omega), if_pos ha]

/-- The first of three bytes asks for two more, and bounds the next one. -/
theorem beginning_three (ha : 0xe0 ≤ a.toNat ∧ a.toNat ≤ 0xef) :
    ∃ low high, beginning a = .inr ⟨[a], a.toNat - 0xe0, 2, low, high⟩ ∧
      ∀ b, low ≤ b ∧ b ≤ high ↔ SecondOfThree a b := by
  rw [beginning_eq, if_neg (by omega), if_neg (by omega)]
  unfold SecondOfThree Continues
  split
  case isTrue h =>
    refine ⟨0xa0, 0xbf, by rw [h], fun b => ?_⟩
    simp only [UInt8.le_iff_toNat_le, UInt8.reduceToNat]
    omega
  split
  case isTrue h =>
    refine ⟨0x80, 0x9f, by rw [h], fun b => ?_⟩
    simp only [UInt8.le_iff_toNat_le, UInt8.reduceToNat]
    omega
  · refine ⟨0x80, 0xbf, if_pos (by omega), fun b => ?_⟩
    simp only [UInt8.le_iff_toNat_le, UInt8.reduceToNat]
    omega

/-- The first of four bytes asks for three more, and bounds the next one. -/
theorem beginning_four (ha : 0xf0 ≤ a.toNat ∧ a.toNat ≤ 0xf4) :
    ∃ low high, beginning a = .inr ⟨[a], a.toNat - 0xf0, 3, low, high⟩ ∧
      ∀ b, low ≤ b ∧ b ≤ high ↔ SecondOfFour a b := by
  rw [beginning_eq, if_neg (by omega), if_neg (by omega), if_neg (by omega), if_neg (by omega),
    if_neg (by omega)]
  unfold SecondOfFour Continues
  split
  case isTrue h =>
    refine ⟨0x90, 0xbf, by rw [h], fun b => ?_⟩
    simp only [UInt8.le_iff_toNat_le, UInt8.reduceToNat]
    omega
  split
  case isTrue h =>
    refine ⟨0x80, 0xbf, rfl, fun b => ?_⟩
    simp only [UInt8.le_iff_toNat_le, UInt8.reduceToNat]
    omega
  · have h : a.toNat = 0xf4 := by omega
    refine ⟨0x80, 0x8f, by rw [if_pos h, h], fun b => ?_⟩
    simp only [UInt8.le_iff_toNat_le, UInt8.reduceToNat]
    omega

/-- However the character that has begun goes on, its bytes are those that are read. -/
inductive Start.Sound : Start → Prop where
  | last {s : Start} (h : s.owed = 1)
    (hends : ∀ b, s.low ≤ b ∧ b ≤ s.high →
      Encodes (Char.ofNat (s.extend b).code) (s.extend b).bytes) : Sound s
  | more {s : Start} (h : s.owed ≠ 1)
    (hnext : ∀ b, s.low ≤ b ∧ b ≤ s.high → Sound (s.extend b)) : Sound s

/-- A byte is a piece by itself, or it begins a character. -/
theorem beginning_sound (a : UInt8) :
    (∃ p, beginning a = .inl p ∧ p.bytes = [a]) ∨
      ∃ s, beginning a = .inr s ∧ s.bytes = [a] ∧ s.Sound := by
  by_cases hone : a.toNat ≤ 0x7f
  · exact Or.inl ⟨_, beginning_one hone, (Encodes.one hone).utf8EncodeChar_eq⟩
  by_cases htwo : 0xc2 ≤ a.toNat ∧ a.toNat ≤ 0xdf
  · refine Or.inr ⟨_, beginning_two htwo, rfl, .last rfl fun b hb => ?_⟩
    exact .two htwo (continues_iff.1 hb)
  by_cases hthree : 0xe0 ≤ a.toNat ∧ a.toNat ≤ 0xef
  · obtain ⟨low, high, hbegins, hbounds⟩ := beginning_three hthree
    refine Or.inr ⟨_, hbegins, rfl, .more (by simp) fun b hb => .last rfl fun c hc => ?_⟩
    exact .three hthree ((hbounds b).1 hb) (continues_iff.1 hc)
  by_cases hfour : 0xf0 ≤ a.toNat ∧ a.toNat ≤ 0xf4
  · obtain ⟨low, high, hbegins, hbounds⟩ := beginning_four hfour
    refine Or.inr ⟨_, hbegins, rfl, .more (by simp) fun b hb =>
      .more (by simp [Start.extend]) fun c hc => .last rfl fun d hd => ?_⟩
    exact .four hfour ((hbounds b).1 hb) (continues_iff.1 hc) (continues_iff.1 hd)
  · refine Or.inl ⟨.broken [a], ?_, rfl⟩
    rw [beginning_eq, if_neg hone, if_neg htwo, if_neg (by omega), if_neg (by omega),
      if_neg (by omega), if_neg (by omega), if_neg (by omega), if_neg (by omega)]

/-! ### Pieces -/

private theorem piecesFrom_of_inl (h : beginning b = .inl p) :
    piecesFrom none (b :: rest) = p :: piecesFrom none rest := by
  simp only [piecesFrom, h]

private theorem piecesFrom_of_inr (h : beginning b = .inr t) :
    piecesFrom none (b :: rest) = piecesFrom (some t) rest := by
  simp only [piecesFrom, h]

private theorem piecesFrom_last (hb : s.low ≤ b ∧ b ≤ s.high) (h : s.owed = 1) :
    piecesFrom (some s) (b :: rest) =
      .char (Char.ofNat (s.extend b).code) :: piecesFrom none rest := by
  rw [piecesFrom, if_pos hb, if_pos h]

private theorem piecesFrom_more (hb : s.low ≤ b ∧ b ≤ s.high) (h : s.owed ≠ 1) :
    piecesFrom (some s) (b :: rest) = piecesFrom (some (s.extend b)) rest := by
  rw [piecesFrom, if_pos hb, if_neg h]

private theorem piecesFrom_broken (hb : ¬ (s.low ≤ b ∧ b ≤ s.high)) :
    piecesFrom (some s) (b :: rest) = .broken s.bytes :: piecesFrom none (b :: rest) := by
  rw [piecesFrom, if_neg hb, piecesFrom]

/-- The pieces hold all the bytes, in order. -/
theorem flatMap_bytes_piecesFrom (start : Option Start) (hstart : ∀ s ∈ start, s.Sound)
    (bytes : List UInt8) :
    (piecesFrom start bytes).flatMap Piece.bytes = (start.map Start.bytes).getD [] ++ bytes := by
  induction bytes generalizing start with
  | nil =>
    cases start with
    | none => rfl
    | some s => simp [piecesFrom, Piece.bytes]
  | cons b rest ih =>
    have hnone : (piecesFrom none (b :: rest)).flatMap Piece.bytes = b :: rest := by
      rcases beginning_sound b with ⟨p, h, hbytes⟩ | ⟨t, h, hbytes, hsound⟩
      · rw [piecesFrom_of_inl h, List.flatMap_cons, ih none nofun, hbytes]
        rfl
      · rw [piecesFrom_of_inr h, ih (some t) fun s hs => Option.some.inj hs ▸ hsound,
          Option.map_some, Option.getD_some, hbytes]
        rfl
    cases start with
    | none => exact hnone
    | some s =>
      by_cases hb : s.low ≤ b ∧ b ≤ s.high
      · cases hstart s rfl with
        | last h hends =>
          rw [piecesFrom_last hb h, List.flatMap_cons, ih none nofun, Piece.bytes,
            (hends b hb).utf8EncodeChar_eq]
          simp [Start.extend]
        | more h hnext =>
          rw [piecesFrom_more hb h,
            ih (some (s.extend b)) fun t ht => Option.some.inj ht ▸ hnext b hb]
          simp [Start.extend]
      · rw [piecesFrom_broken hb, List.flatMap_cons, hnone]
        rfl

/-- The bytes of a character are read as that character. -/
theorem piecesFrom_of_encodes {ch : Char} {bytes : List UInt8} (h : Encodes ch bytes)
    (rest : List UInt8) : piecesFrom none (bytes ++ rest) = .char ch :: piecesFrom none rest := by
  cases h with
  | one ha => exact piecesFrom_of_inl (beginning_one ha)
  | two ha hb =>
    rw [List.cons_append, piecesFrom_of_inr (beginning_two ha)]
    exact piecesFrom_last (continues_iff.2 hb) rfl
  | @three a b c ha hb hc =>
    obtain ⟨low, high, hbegins, hbounds⟩ := beginning_three ha
    rw [List.cons_append, List.cons_append, piecesFrom_of_inr hbegins,
      piecesFrom_more ((hbounds b).2 hb) (by simp)]
    exact piecesFrom_last (continues_iff.2 hc) rfl
  | @four a b c d ha hb hc hd =>
    obtain ⟨low, high, hbegins, hbounds⟩ := beginning_four ha
    rw [List.cons_append, List.cons_append, List.cons_append, piecesFrom_of_inr hbegins,
      piecesFrom_more ((hbounds b).2 hb) (by simp),
      piecesFrom_more (continues_iff.2 hc) (by simp [Start.extend])]
    exact piecesFrom_last (continues_iff.2 hd) rfl

/-- The encoding of some characters falls into these characters. -/
theorem piecesFrom_utf8 (chars : List Char) :
    piecesFrom none (chars.flatMap String.utf8EncodeChar) = chars.map .char := by
  induction chars with
  | nil => rfl
  | cons ch chars ih =>
    rw [List.flatMap_cons, piecesFrom_of_encodes (encodes_utf8EncodeChar ch), ih, List.map_cons]

/-- The pieces can be read as characters if every one of them is one. -/
theorem mapM_char?_eq_some_iff {pieces : List Piece} {chars : List Char} :
    pieces.mapM char? = some chars ↔ pieces = chars.map .char := by
  induction pieces generalizing chars with
  | nil => simp [eq_comm]
  | cons p pieces ih =>
    rw [List.mapM_cons]
    cases p with
    | broken bs => cases chars <;> simp [char?]
    | char ch => cases chars <;> simp [char?, Option.bind_eq_some_iff, ih, and_comm]

/-- **Bytes are a text exactly if they are its UTF-8.** -/
theorem text?_ofBytes_iff {bytes : List UInt8} {s : String} :
    (ofBytes bytes).text? = some s ↔ s.toUTF8 = bytes.toByteArray := by
  have hpieces : (ofBytes bytes).text? = some s ↔ piecesFrom none bytes = s.toList.map .char := by
    rw [text?, Option.map_eq_some_iff, ← mapM_char?_eq_some_iff]
    constructor
    · rintro ⟨chars, hchars, rfl⟩
      rw [String.toList_ofList]
      exact hchars
    · intro h
      exact ⟨s.toList, h, String.ofList_toList⟩
  have hbytes : s.toUTF8 = bytes.toByteArray ↔ bytes = s.toList.flatMap String.utf8EncodeChar := by
    rw [String.toUTF8_eq_toByteArray, ← String.utf8Encode_toList, List.utf8Encode,
      List.toByteArray_inj, eq_comm]
  rw [hpieces, hbytes]
  constructor
  · intro h
    have hlossless := flatMap_bytes_piecesFrom none nofun bytes
    rw [h, List.flatMap_map] at hlossless
    exact hlossless.symm
  · rintro rfl
    exact piecesFrom_utf8 s.toList

/-- Bytes can be read as no text if and only if they are not valid UTF-8. -/
theorem text?_ofBytes_eq_none_iff {bytes : List UInt8} :
    (ofBytes bytes).text? = none ↔ ¬ bytes.toByteArray.IsValidUTF8 := by
  rw [Option.eq_none_iff_forall_ne_some, ← not_exists, not_iff_not]
  simp only [text?_ofBytes_iff, String.toUTF8_eq_toByteArray]
  constructor
  · rintro ⟨s, hs⟩
    exact hs ▸ s.isValidUTF8
  · exact fun h => ⟨.ofByteArray bytes.toByteArray h, rfl⟩

end RawText

end RunOperator
