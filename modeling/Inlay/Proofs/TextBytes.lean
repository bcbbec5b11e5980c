import Mathlib.Data.List.Basic
import Mathlib.Tactic.SplitIfs
import Inlay.Text.Utf8

/-!
# Texts and their bytes

Decoding undoes coding: bytes are decoded to a text just if they are its bytes, and what
codes no text at all is refused (`decode_eq_ok_iff`). Decoding reads a character's bytes
one after another and keeps the bits so far. The bounds on the second byte leave out what
has a shorter code, surrogates and numbers beyond the last character, so when the last bits
are in they are the number of a character, and that is coded in the bytes that were read.
-/

namespace Inlay

namespace Text.Utf8

/-! ## Characters -/

def bytesOf (n : Nat) : List UInt8 :=
  if n ≤ 0x7F then [UInt8.ofNat n]
  else if n ≤ 0x7FF then [UInt8.ofNat (n / 64 % 32 + 192), UInt8.ofNat (n % 64 + 128)]
  else if n ≤ 0xFFFF then
    [UInt8.ofNat (n / 4096 % 16 + 224), UInt8.ofNat (n / 64 % 64 + 128),
      UInt8.ofNat (n % 64 + 128)]
  else
    [UInt8.ofNat (n / 262144 % 8 + 240), UInt8.ofNat (n / 4096 % 64 + 128),
      UInt8.ofNat (n / 64 % 64 + 128), UInt8.ofNat (n % 64 + 128)]

theorem utf8EncodeChar_eq (c : Char) : String.utf8EncodeChar c = bytesOf c.toNat := rfl

/-- Bytes that bring in the rest of a number, as many as are missing: the first one between
bounds, the others any that may follow a first byte. -/
inductive Continues : Nat → Nat → Nat → Nat → List UInt8 → Nat → Prop
  | last {low high bits n : Nat} {b : UInt8} (hlow : low ≤ b.toNat) (hhigh : b.toNat ≤ high)
      (hn : n = bits * 0x40 + b.toNat % 0x40) : Continues low high 1 bits [b] n
  | more {low high missing bits n : Nat} {b : UInt8} {bs : List UInt8} (hlow : low ≤ b.toNat)
      (hhigh : b.toNat ≤ high)
      (h : Continues 0x80 0xBF (missing + 1) (bits * 0x40 + b.toNat % 0x40) bs n) :
      Continues low high (missing + 2) bits (b :: bs) n

/-- Bytes that bring in a whole number. -/
inductive Spells : List UInt8 → Nat → Prop
  | one {low high : Nat} {b : UInt8} (h : shape? b.toNat = some (low, high, 0)) :
      Spells [b] b.toNat
  | more {low high more n : Nat} {b : UInt8} {bs : List UInt8}
      (h : shape? b.toNat = some (low, high, more + 1))
      (hrest : Continues low high (more + 1) (leadBits b.toNat (more + 1)) bs n) :
      Spells (b :: bs) n

/-- First bytes with the number of bytes that follow, and the bounds of the next one. -/
theorem shape?_eq_some {first low high more : Nat} (h : shape? first = some (low, high, more)) :
    (more = 0 ∧ first < 0x80) ∨
    (more = 1 ∧ 0xC2 ≤ first ∧ first < 0xE0 ∧ low = 0x80 ∧ high = 0xBF) ∨
    (more = 2 ∧ 0xE0 ≤ first ∧ first < 0xF0 ∧
      (first = 0xE0 → low = 0xA0) ∧ (first = 0xED → high = 0x9F) ∧
      0x80 ≤ low ∧ high ≤ 0xBF) ∨
    (more = 3 ∧ 0xF0 ≤ first ∧ first < 0xF5 ∧
      (first = 0xF0 → low = 0x90) ∧ (first = 0xF4 → high = 0x8F) ∧
      0x80 ≤ low ∧ high ≤ 0xBF) := by
  unfold shape? at h
  split_ifs at h <;> simp only [Option.some.injEq, Prod.mk.injEq] at h <;> omega

/-- What one byte brings in after some bits. -/
theorem Continues.eq_last {low high bits n : Nat} {bs : List UInt8}
    (h : Continues low high 1 bits bs n) :
    ∃ b : UInt8, bs = [b] ∧ low ≤ b.toNat ∧ b.toNat ≤ high ∧ n = bits * 0x40 + b.toNat % 0x40 := by
  cases h with
  | last hlow hhigh hn => exact ⟨_, rfl, hlow, hhigh, hn⟩

/-- What a byte brings in before others. -/
theorem Continues.eq_more {low high missing bits n : Nat} {bs : List UInt8}
    (h : Continues low high (missing + 2) bits bs n) :
    ∃ (b : UInt8) (rest : List UInt8), bs = b :: rest ∧ low ≤ b.toNat ∧ b.toNat ≤ high ∧
      Continues 0x80 0xBF (missing + 1) (bits * 0x40 + b.toNat % 0x40) rest n := by
  cases h with
  | more hlow hhigh h => exact ⟨_, _, rfl, hlow, hhigh, h⟩

theorem shape?_two {first : Nat} (hlow : 0xC2 ≤ first) (hhigh : first < 0xE0) :
    shape? first = some (0x80, 0xBF, 1) := by
  rw [shape?, if_neg (by omega), if_neg (by omega), if_pos (by omega)]

theorem shape?_three {first : Nat} (hlow : 0xE0 ≤ first) (hhigh : first < 0xF0) :
    shape? first =
      some (if first = 0xE0 then 0xA0 else 0x80, if first = 0xED then 0x9F else 0xBF, 2) := by
  rw [shape?, if_neg (by omega), if_neg (by omega), if_neg (by omega)]
  split_ifs <;> first | rfl | omega

theorem shape?_four {first : Nat} (hlow : 0xF0 ≤ first) (hhigh : first < 0xF5) :
    shape? first =
      some (if first = 0xF0 then 0x90 else 0x80, if first = 0xF4 then 0x8F else 0xBF, 3) := by
  rw [shape?, if_neg (by omega), if_neg (by omega), if_neg (by omega), if_neg (by omega),
    if_neg (by omega), if_neg (by omega)]
  split_ifs <;> first | rfl | omega

theorem ofNat_eq {n : Nat} {b : UInt8} (h : n % 256 = b.toNat) : UInt8.ofNat n = b :=
  UInt8.toNat_inj.mp (by rw [UInt8.toNat_ofNat']; exact h)

/-- A number that bytes bring in is that of a character, and they are its bytes. -/
theorem Spells.eq_bytesOf {bytes : List UInt8} {n : Nat} (h : Spells bytes n) :
    n.isValidChar ∧ bytes = bytesOf n := by
  cases h with
  | @one low high b h =>
      obtain ⟨-, hfirst⟩ | ⟨hmore, -⟩ | ⟨hmore, -⟩ | ⟨hmore, -⟩ := shape?_eq_some h
      · refine ⟨.inl (by omega), ?_⟩
        rw [bytesOf, if_pos (by omega), UInt8.ofNat_toNat]
      all_goals omega
  | @more low high more _ b _ h hrest =>
      obtain ⟨hmore, -⟩ | ⟨hmore, hfirst⟩ | ⟨hmore, hfirst⟩ | ⟨hmore, hfirst⟩ := shape?_eq_some h
      · omega
      · obtain rfl : more = 0 := by omega
        obtain ⟨c, rfl, hlow, hhigh, hn⟩ := hrest.eq_last
        change n = b.toNat % 0x20 * 0x40 + c.toNat % 0x40 at hn
        refine ⟨.inl (by omega), ?_⟩
        rw [bytesOf, if_neg (by omega), if_pos (by omega)]
        refine congrArg₂ List.cons ?_ (congrArg₂ List.cons ?_ rfl)
        all_goals exact (ofNat_eq (by omega)).symm
      · obtain rfl : more = 1 := by omega
        obtain ⟨c, bs, rfl, hlow, hhigh, hrest⟩ := hrest.eq_more
        obtain ⟨d, rfl, hlow', hhigh', hn⟩ := hrest.eq_last
        change n = (b.toNat % 0x10 * 0x40 + c.toNat % 0x40) * 0x40 + d.toNat % 0x40 at hn
        refine ⟨by unfold Nat.isValidChar; omega, ?_⟩
        rw [bytesOf, if_neg (by omega), if_neg (by omega), if_pos (by omega)]
        refine congrArg₂ List.cons ?_ (congrArg₂ List.cons ?_ (congrArg₂ List.cons ?_ rfl))
        all_goals exact (ofNat_eq (by omega)).symm
      · obtain rfl : more = 2 := by omega
        obtain ⟨c, bs, rfl, hlow, hhigh, hrest⟩ := hrest.eq_more
        obtain ⟨d, bs, rfl, hlow', hhigh', hrest⟩ := hrest.eq_more
        obtain ⟨e, rfl, hlow'', hhigh'', hn⟩ := hrest.eq_last
        change n = ((b.toNat % 8 * 0x40 + c.toNat % 0x40) * 0x40 + d.toNat % 0x40) * 0x40 +
          e.toNat % 0x40 at hn
        refine ⟨.inr (by omega), ?_⟩
        rw [bytesOf, if_neg (by omega), if_neg (by omega), if_neg (by omega)]
        refine congrArg₂ List.cons ?_ <| congrArg₂ List.cons ?_ <|
          congrArg₂ List.cons ?_ (congrArg₂ List.cons ?_ rfl)
        all_goals exact (ofNat_eq (by omega)).symm

/-- The bytes of a character bring in its number. -/
theorem spells_bytesOf {n : Nat} (h : n.isValidChar) : Spells (bytesOf n) n := by
  have hbyte {k : Nat} (hk : k < 256) : (UInt8.ofNat k).toNat = k := UInt8.toNat_ofNat_of_lt' hk
  have hlast (k : Nat) : (UInt8.ofNat (k % 64 + 128)).toNat = k % 64 + 128 := hbyte (by omega)
  have hscalar : n < 0xD800 ∨ 0xDFFF < n ∧ n < 0x110000 := h
  unfold bytesOf
  split_ifs with hone htwo hthree
  · have hfirst := hbyte (k := n) (by omega)
    have hspells : Spells [UInt8.ofNat n] (UInt8.ofNat n).toNat :=
      .one (by rw [hfirst, shape?, if_pos (by omega)])
    rwa [hfirst] at hspells
  · have hfirst := hbyte (k := n / 64 % 32 + 192) (by omega)
    refine .more (by rw [hfirst]; exact shape?_two (by omega) (by omega)) (.last ?_ ?_ ?_)
    all_goals simp only [hfirst, hlast, leadBits]
    all_goals omega
  · have hfirst := hbyte (k := n / 4096 % 16 + 224) (by omega)
    refine .more (by rw [hfirst]; exact shape?_three (by omega) (by omega))
      (.more ?_ ?_ (.last ?_ ?_ ?_))
    all_goals simp only [hfirst, hlast, leadBits]
    all_goals first | omega | (split_ifs <;> omega)
  · have hfirst := hbyte (k := n / 262144 % 8 + 240) (by omega)
    refine .more (by rw [hfirst]; exact shape?_four (by omega) (by omega))
      (.more ?_ ?_ (.more ?_ ?_ (.last ?_ ?_ ?_)))
    all_goals simp only [hfirst, hlast, leadBits]
    all_goals first | omega | (split_ifs <;> omega)

/-! ## Decoding -/

variable {low high missing bits n place : Nat} {bs bytes : List UInt8} {cs : List Char}

/-- Decoding takes up what brings in the rest of a number. -/
theorem decodeFrom_continues (h : Continues low high missing bits bs n) (start place : Nat)
    (first : UInt8) (done : List Char) (rest : List UInt8) :
    ∃ after, decodeFrom place (some ⟨start, first, bits, missing, low, high⟩) done (bs ++ rest) =
      decodeFrom after none (Char.ofNat n :: done) rest := by
  induction h generalizing place with
  | last hlow hhigh hn =>
      refine ⟨place + 1, ?_⟩
      rw [List.singleton_append, decodeFrom, hn]
      simp only [if_pos (And.intro hlow hhigh)]
      rfl
  | more hlow hhigh h ih =>
      obtain ⟨after, hafter⟩ := ih (place + 1)
      refine ⟨after, ?_⟩
      rw [List.cons_append, decodeFrom]
      simp only [if_pos (And.intro hlow hhigh)]
      exact hafter

/-- What is decoded after a first byte begins with what brings in the rest of its number. -/
theorem continues_of_ok {p : Pending} {done : List Char} (hmissing : p.missing ≠ 0)
    (h : decodeFrom place (some p) done bytes = .ok cs) :
    ∃ bs rest n after, bytes = bs ++ rest ∧
      Continues p.low p.high p.missing p.bits bs n ∧
      decodeFrom after none (Char.ofNat n :: done) rest = .ok cs := by
  induction bytes generalizing p place with
  | nil => cases h
  | cons b rest ih =>
      rw [decodeFrom] at h
      by_cases hbounds : p.low ≤ b.toNat ∧ b.toNat ≤ p.high
      · simp only [if_pos hbounds] at h
        obtain ⟨start, first, bits, missing, low, high⟩ := p
        rcases missing with _ | _ | missing
        · exact absurd rfl hmissing
        · exact ⟨[b], rest, _, place + 1, rfl, .last hbounds.1 hbounds.2 rfl, h⟩
        · obtain ⟨bs, rest, n, after, rfl, hcontinues, hafter⟩ := ih (by simp) h
          exact ⟨b :: bs, rest, n, after, rfl, .more hbounds.1 hbounds.2 hcontinues, hafter⟩
      · simp only [if_neg hbounds] at h
        cases h

/-- Decoding takes up the bytes of a character. -/
theorem decodeFrom_char (c : Char) (place : Nat) (done : List Char) (rest : List UInt8) :
    ∃ after, decodeFrom place none done (String.utf8EncodeChar c ++ rest) =
      decodeFrom after none (c :: done) rest := by
  rw [utf8EncodeChar_eq]
  have hspells := spells_bytesOf (n := c.toNat) c.valid
  generalize bytesOf c.toNat = bytes at hspells
  generalize hn : c.toNat = n at hspells
  obtain rfl : c = Char.ofNat n := by rw [← hn, Char.ofNat_toNat]
  cases hspells with
  | one h =>
      refine ⟨place + 1, ?_⟩
      rw [List.singleton_append, decodeFrom]
      simp only [h]
  | more h hrest =>
      rw [List.cons_append, decodeFrom]
      simp only [h]
      exact decodeFrom_continues hrest place (place + 1) _ done rest

/-- What is decoded begins with the bytes of a character. -/
theorem char_of_ok {b : UInt8} {done : List Char}
    (h : decodeFrom place none done (b :: bytes) = .ok cs) :
    ∃ c rest after, b :: bytes = String.utf8EncodeChar c ++ rest ∧
      decodeFrom after none (c :: done) rest = .ok cs := by
  suffices hspells : ∃ bs rest n after, b :: bytes = bs ++ rest ∧ Spells bs n ∧
      decodeFrom after none (Char.ofNat n :: done) rest = .ok cs by
    obtain ⟨bs, rest, n, after, hbytes, hspells, hafter⟩ := hspells
    obtain ⟨hvalid, rfl⟩ := hspells.eq_bytesOf
    refine ⟨Char.ofNat n, rest, after, ?_, hafter⟩
    have hn : (Char.ofNat n).toNat = n := by
      rw [Char.ofNat, dif_pos hvalid]
      rfl
    rw [hbytes, utf8EncodeChar_eq, hn]
  rw [decodeFrom] at h
  cases hshape : shape? b.toNat with
  | none =>
      rw [hshape] at h
      cases h
  | some bounds =>
      obtain ⟨low, high, more⟩ := bounds
      rw [hshape] at h
      cases more with
      | zero => exact ⟨[b], bytes, _, place + 1, rfl, .one hshape, h⟩
      | succ more =>
          obtain ⟨bs, rest, n, after, rfl, hcontinues, hafter⟩ := continues_of_ok (by simp) h
          exact ⟨b :: bs, rest, n, after, rfl, .more hshape hcontinues, hafter⟩

/-- Decoding ends well just if the bytes are those of characters, and with these. -/
theorem decodeFrom_eq_ok_iff {done : List Char} :
    decodeFrom place none done bytes = .ok cs ↔
      ∃ ds, cs = done.reverse ++ ds ∧ bytes = ds.flatMap String.utf8EncodeChar := by
  constructor
  · intro h
    induction hlength : bytes.length using Nat.strongRecOn generalizing bytes place done with
    | _ length ih =>
        subst hlength
        cases bytes with
        | nil =>
            cases h
            exact ⟨[], by simp, rfl⟩
        | cons b bytes =>
            obtain ⟨c, rest, after, hbytes, hafter⟩ := char_of_ok h
            have hshorter : rest.length < (b :: bytes).length := by
              rw [hbytes, List.length_append]
              have hpos := String.length_utf8EncodeChar c
              have := c.utf8Size_pos
              omega
            obtain ⟨ds, rfl, rfl⟩ := ih _ hshorter hafter rfl
            exact ⟨c :: ds, by simp, hbytes⟩
  · rintro ⟨ds, rfl, rfl⟩
    induction ds generalizing done place with
    | nil => simp [decodeFrom]
    | cons d ds ih =>
        obtain ⟨after, hafter⟩ := decodeFrom_char d place done (ds.flatMap String.utf8EncodeChar)
        rw [List.flatMap_cons, hafter, ih]
        simp

theorem toList_eq (bytes : ByteArray) : bytes.toList = bytes.data.toList := by
  have hloop (i : Nat) (seen : List UInt8) :
      ByteArray.toList.loop bytes i seen = seen.reverse ++ bytes.data.toList.drop i := by
    fun_induction ByteArray.toList.loop bytes i seen with
    | case1 i seen hi ih =>
        have hlength : i < bytes.data.toList.length := by simpa using hi
        have hdrop := List.drop_eq_getElem_cons hlength
        rw [ih, hdrop, List.reverse_cons, List.append_assoc]
        simp [ByteArray.get!, hi]
    | case2 i seen hi =>
        rw [List.drop_eq_nil_of_le (by simpa using hi), List.append_nil]
  exact hloop 0 []

/-- Bytes are decoded to a text just if they are its bytes. -/
theorem decode_eq_ok_iff {bytes : ByteArray} {text : String} :
    decode bytes = .ok text ↔ text.toUTF8 = bytes := by
  have hchars : decode bytes = .ok text ↔
      decodeFrom 0 none [] bytes.toList = .ok text.toList := by
    unfold decode
    cases decodeFrom 0 none [] bytes.toList with
    | error fault => simp [Except.map]
    | ok cs =>
        have htext : String.ofList cs = text ↔ cs = text.toList := by
          rw [← String.ofList_inj, String.ofList_toList]
        simpa [Except.map] using htext
  calc decode bytes = .ok text
      ↔ bytes.toList = text.toList.flatMap String.utf8EncodeChar := by
        rw [hchars, decodeFrom_eq_ok_iff]
        simp
    _ ↔ text.toList.utf8Encode = bytes := by
        rw [toList_eq, ByteArray.ext_iff, List.utf8Encode, List.data_toByteArray, eq_comm,
          ← Array.toList_inj]
    _ ↔ text.toUTF8 = bytes := by rw [String.utf8Encode_toList, String.toUTF8_eq_toByteArray]

/-- Bytes that are no text's are refused, and no others. -/
theorem decode_eq_error_iff {bytes : ByteArray} :
    (∃ fault, decode bytes = .error fault) ↔ ¬ bytes.IsValidUTF8 := by
  constructor
  · rintro ⟨fault, hfault⟩ ⟨cs, hcs⟩
    have hok : decode bytes = .ok (String.ofList cs) :=
      decode_eq_ok_iff.mpr (by rw [String.toUTF8_eq_toByteArray, String.toByteArray_ofList, hcs])
    rw [hfault] at hok
    cases hok
  · intro hinvalid
    cases hdecode : decode bytes with
    | error fault => exact ⟨fault, rfl⟩
    | ok text =>
        have hvalid : text.toUTF8.IsValidUTF8 := text.isValidUTF8
        rw [decode_eq_ok_iff.mp hdecode] at hvalid
        exact absurd hvalid hinvalid

end Text.Utf8

end Inlay
