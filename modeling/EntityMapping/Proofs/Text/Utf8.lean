import EntityMapping.Text.Utf8
import Mathlib.Data.List.TakeWhile
import Mathlib.Tactic.Common

/-!
# Decoding what was encoded

The octets of a character are a lead octet and the followers that fit it (`spells_utf8EncodeChar`),
and they spell the code point of the character.  Strict decoding therefore reads a character off the
octets of a text one by one, whatever follows, and gives back the text (`decode_encode`).  Decoding
after a signature gives it back without a first character that the signature spells
(`decodeSigned_encode`).

## Main definitions

* `Spells` — a lead octet and its followers spell a character.
-/

namespace EntityMapping.Text.Utf8

/-- A lead octet and its followers spell a character. -/
structure Spells (a : UInt8) (bs : Octets) (c : Char) : Prop where
  followers : Utf8.followers a = some bs.length
  fits : ∀ r, fitting a bs.length (bs ++ r) = bs
  codePoint : Utf8.codePoint a bs = c.toNat

/-- The octets that spell a character are read as it, whatever follows. -/
theorem Spells.decodeFrom_append {a : UInt8} {bs : Octets} {c : Char} (h : Spells a bs c)
    (position : Nat) (r : Octets) :
    decodeFrom position (a :: bs ++ r)
      = (decodeFrom (position + bs.length + 1) r).map (c :: ·) := by
  rw [List.cons_append, decodeFrom, h.followers]
  dsimp only
  rw [h.fits r, if_pos rfl, List.drop_left, h.codePoint, Char.ofNat_toNat]
  cases decodeFrom (position + bs.length + 1) r <;> rfl

/-! ### The octets of one character -/

theorem followers_eq (a : UInt8) :
    followers a = if a.toNat < 0x80 then some 0 else if a.toNat < 0xc2 then none
      else if a.toNat < 0xe0 then some 1 else if a.toNat < 0xf0 then some 2
      else if a.toNat < 0xf5 then some 3 else none := by
  simp only [followers, UInt8.lt_iff_toNat_lt, UInt8.toNat_ofNat]

theorem continues_ofNat (n : Nat) : continues (UInt8.ofNat (n % 64 + 128)) = true := by
  simp only [continues, UInt8.le_iff_toNat_le, UInt8.toNat_ofNat, UInt8.toNat_ofNat',
    Bool.and_eq_true, decide_eq_true_eq]
  omega

/-- An octet may come second after a lead octet just if it continues a character and spells no
overlong form, half of a pair or number past U+10FFFF with it. -/
theorem mem_secondRange_iff {a b : UInt8} :
    (secondRange a).1 ≤ b ∧ b ≤ (secondRange a).2
      ↔ (0x80 ≤ b.toNat ∧ b.toNat ≤ 0xbf) ∧ (a.toNat = 0xe0 → 0xa0 ≤ b.toNat)
        ∧ (a.toNat = 0xed → b.toNat ≤ 0x9f) ∧ (a.toNat = 0xf0 → 0x90 ≤ b.toNat)
        ∧ (a.toNat = 0xf4 → b.toNat ≤ 0x8f) := by
  have hnumber (n : UInt8) : a = n ↔ a.toNat = n.toNat := UInt8.toNat_inj.symm
  unfold secondRange
  simp only [hnumber, UInt8.toNat_ofNat]
  split_ifs <;> simp only [UInt8.le_iff_toNat_le, UInt8.toNat_ofNat] <;> omega

theorem fitting_append {a b : UInt8} {bs : Octets}
    (hb : (secondRange a).1 ≤ b ∧ b ≤ (secondRange a).2) (hbs : ∀ x ∈ bs, continues x = true)
    (r : Octets) : fitting a (b :: bs).length (b :: bs ++ r) = b :: bs := by
  have hbool : ((secondRange a).1 ≤ b && b ≤ (secondRange a).2) = true := by simpa using hb
  rw [List.length_cons, List.cons_append, fitting, if_pos hbool, List.take_left,
    List.takeWhile_eq_self_iff.mpr hbs]

theorem isValid_toNat (c : Char) : c.toNat < 0xd800 ∨ 0xdfff < c.toNat ∧ c.toNat < 0x110000 :=
  c.valid

/-- The octets of a character spell it. -/
theorem spells_utf8EncodeChar (c : Char) :
    ∃ a bs, String.utf8EncodeChar c = a :: bs ∧ Spells a bs c := by
  have hvalid := isValid_toNat c
  have hval : c.val.toNat = c.toNat := rfl
  unfold String.utf8EncodeChar
  rw [hval]
  dsimp only
  -- One to four octets; the second range of the first octet leaves out what is too long or no
  -- character.
  split_ifs with h1 h2 h3
  · refine ⟨_, _, rfl, ?_, fun _ => rfl, ?_⟩
    · rw [followers_eq, UInt8.toNat_ofNat', if_pos (by omega)]
      rfl
    · simp only [codePoint, List.length_nil, List.foldl_nil, UInt8.toNat_ofNat']
      omega
  · refine ⟨_, _, rfl, ?_, fun r => fitting_append ?_ (by simp) r, ?_⟩
    · rw [followers_eq, UInt8.toNat_ofNat', if_neg (by omega), if_neg (by omega),
        if_pos (by omega)]
      rfl
    · rw [mem_secondRange_iff]
      simp only [UInt8.toNat_ofNat']
      omega
    · simp only [codePoint, List.length_cons, List.length_nil, List.foldl_cons, List.foldl_nil,
        UInt8.toNat_ofNat']
      omega
  · refine ⟨_, _, rfl, ?_, fun r => fitting_append ?_ ?_ r, ?_⟩
    · rw [followers_eq, UInt8.toNat_ofNat', if_neg (by omega), if_neg (by omega),
        if_neg (by omega), if_pos (by omega)]
      rfl
    · rw [mem_secondRange_iff]
      simp only [UInt8.toNat_ofNat']
      omega
    · exact List.forall_mem_singleton.mpr (continues_ofNat _)
    · simp only [codePoint, List.length_cons, List.length_nil, List.foldl_cons, List.foldl_nil,
        UInt8.toNat_ofNat']
      omega
  · refine ⟨_, _, rfl, ?_, fun r => fitting_append ?_ ?_ r, ?_⟩
    · rw [followers_eq, UInt8.toNat_ofNat', if_neg (by omega), if_neg (by omega),
        if_neg (by omega), if_neg (by omega), if_pos (by omega)]
      rfl
    · rw [mem_secondRange_iff]
      simp only [UInt8.toNat_ofNat']
      omega
    · exact List.forall_mem_cons.mpr
        ⟨continues_ofNat _, List.forall_mem_singleton.mpr (continues_ofNat _)⟩
    · simp only [codePoint, List.length_cons, List.length_nil, List.foldl_cons, List.foldl_nil,
        UInt8.toNat_ofNat']
      omega

/-! ### The octets of a text -/

theorem decodeFrom_encode (position : Nat) (cs : List Char) :
    decodeFrom position (encode cs) = .ok cs := by
  induction cs generalizing position with
  | nil => simp [encode, decodeFrom]
  | cons c r ih =>
    obtain ⟨a, bs, hoctets, hspells⟩ := spells_utf8EncodeChar c
    have hencode : encode (c :: r) = a :: bs ++ encode r := by
      rw [encode, List.flatMap_cons, hoctets]
      rfl
    rw [hencode, hspells.decodeFrom_append, ih]
    rfl

/-- Decoding gives back what was encoded. -/
theorem decode_encode (cs : List Char) : decode (encode cs) = .ok cs := decodeFrom_encode 0 cs

theorem encode_append (cs ds : List Char) : encode (cs ++ ds) = encode cs ++ encode ds :=
  List.flatMap_append

/-! ### The signature -/

/-- Characters without a first one that the signature spells. -/
def unsigned : List Char → List Char
  | [] => []
  | c :: r => if c = '\ufeff' then r else c :: r

theorem unsigned_of_head?_ne {cs : List Char} (h : cs.head? ≠ some '\ufeff') : unsigned cs = cs := by
  cases cs with
  | nil => rfl
  | cons c r => rw [unsigned, if_neg fun hc => h (congrArg some hc)]

/-- The signature and the octets of a text are the octets of the text with one more character. -/
theorem signature_append_encode (cs : List Char) :
    signature ++ encode cs = encode ('\ufeff' :: cs) :=
  (encode_append ['\ufeff'] cs).symm

theorem spells_signature : Spells 0xef [0xbb, 0xbf] '\ufeff' where
  followers := rfl
  fits := fun r => fitting_append (by decide) (List.forall_mem_singleton.mpr rfl) r
  codePoint := rfl

theorem decode_signature_append (s : Octets) :
    decode (signature ++ s) = (decodeFrom 3 s).map ('\ufeff' :: ·) :=
  spells_signature.decodeFrom_append 0 s

/-- What holds no more than the beginning of the signature is no text by itself. -/
theorem decode_ne_ok_of_isPrefixOf {s : Octets} (hlength : s.length < 3) (hs : s ≠ [])
    (h : s.isPrefixOf signature = true) (cs : List Char) : decode s ≠ .ok cs := by
  obtain ⟨rest, hrest⟩ := List.isPrefixOf_iff_prefix.mp h
  have hcases : s = [0xef] ∨ s = [0xef, 0xbb] := by
    rcases s with _ | ⟨a, _ | ⟨b, _ | ⟨c, s⟩⟩⟩
    · exact absurd rfl hs
    · obtain ⟨rfl, -⟩ := List.cons.inj hrest
      exact Or.inl rfl
    · obtain ⟨rfl, htail⟩ := List.cons.inj hrest
      obtain ⟨rfl, -⟩ := List.cons.inj htail
      exact Or.inr rfl
    · rw [List.length_cons, List.length_cons, List.length_cons] at hlength
      omega
  intro hdecode
  rcases hcases with rfl | rfl <;> rw [decode, decodeFrom] at hdecode <;> cases hdecode

/-- Decoding after a signature gives back what was encoded, without the signature. -/
theorem decodeSigned_encode (cs : List Char) : decodeSigned (encode cs) = .ok (unsigned cs) := by
  cases cs with
  | nil => rfl
  | cons c r =>
    have hdecode := decode_encode (c :: r)
    have hne : encode (c :: r) ≠ [] := by
      obtain ⟨a, bs, hoctets, -⟩ := spells_utf8EncodeChar c
      simp [encode, hoctets]
    have hshort : ¬((encode (c :: r)).length < 3 ∧ (encode (c :: r)).isPrefixOf signature) :=
      fun ⟨hlength, h⟩ => decode_ne_ok_of_isPrefixOf hlength hne h _ hdecode
    rw [decodeSigned, if_neg hshort, unsigned]
    by_cases hc : c = '\ufeff'
    · subst hc
      have hencode := (signature_append_encode r).symm
      have hsigned : signature.isPrefixOf (encode ('\ufeff' :: r)) = true := by
        rw [hencode]
        exact List.isPrefixOf_iff_prefix.mpr (List.prefix_append _ _)
      rw [if_pos hsigned, if_pos rfl, hencode]
      exact decode_encode r
    · have hunsigned : ¬signature.isPrefixOf (encode (c :: r)) = true := by
        intro h
        obtain ⟨s, hs⟩ := List.isPrefixOf_iff_prefix.mp h
        rw [← hs, decode_signature_append] at hdecode
        cases hrest : decodeFrom 3 s with
        | error e =>
          rw [hrest] at hdecode
          cases hdecode
        | ok ds =>
          rw [hrest] at hdecode
          exact hc (List.cons.inj (Except.ok.inj hdecode)).1.symm
      rw [if_neg hunsigned, if_neg hc, hdecode]

end EntityMapping.Text.Utf8
