import EntityMapping.CSharp.Directives
import EntityMapping.Proofs.Assoc
import EntityMapping.Proofs.CSharp.Directives
import EntityMapping.Proofs.Json.Scalars

/-!
# Reading chains of calls

A chain of calls is read from left to right: the name of a call up to its bracket, an argument of
the kind that belongs to the name, and so on until the text ends.  A literal is read up to the first
quote that is not escaped, so what a text contains never ends it early.  Reading takes just the
chains of directives that carry what their calls show, and gives the directives back
(`CSharp.readChain_chain`).

## Main definitions

* `CSharp.IsPlain` — a directive carries what its call shows.
* `CSharp.readLiteral`, `CSharp.whole?` — readers of literals and of whole numbers.
* `CSharp.readCall`, `CSharp.readChain` — readers of calls and of chains.
-/

namespace EntityMapping.CSharp

open Decimal Text

/-- A directive carries what its call shows: a text, a whole number or nothing. -/
def IsPlain (d : Directive) : Prop :=
  match d.kind with
  | .columnType | .columnName => ∃ s, d.value = .text s
  | .maxLength => ∃ n, d.value = .int n
  | .required | .concurrencyToken | .rowVersion => d.value = .null
  | .other _ => False

/-! ### Literals -/

/-- Reads a literal behind its opening quote.  Only quotes and backslashes are escaped. -/
def readLiteralRest : List Char → Option (List Char × List Char)
  | [] => none
  | '"' :: r => some ([], r)
  | '\\' :: c :: r =>
    if c = '\\' ∨ c = '"' then (readLiteralRest r).map fun (s, rest) => (c :: s, rest) else none
  | c :: r => (readLiteralRest r).map fun (s, rest) => (c :: s, rest)

/-- Reads a literal. -/
def readLiteral : List Char → Option (List Char × List Char)
  | '"' :: r => readLiteralRest r
  | _ => none

variable {s t rest : List Char}

theorem readLiteralRest_cons {c : Char} (hquote : c ≠ '"') (hbackslash : c ≠ '\\')
    (r : List Char) : readLiteralRest (c :: r)
      = (readLiteralRest r).map fun (s, rest) => (c :: s, rest) := by
  rw [readLiteralRest.eq_def]
  split <;> rename_i heq <;> cases heq
  · exact absurd rfl hquote
  · exact absurd rfl hbackslash
  · rfl

/-- The literal of a text is read up to its closing quote, whatever follows. -/
theorem readLiteralRest_flatMap (s rest : List Char) :
    readLiteralRest (s.flatMap literalChar ++ '"' :: rest) = some (s, rest) := by
  induction s with
  | nil => rfl
  | cons c r ih =>
    rw [List.flatMap_cons, List.append_assoc, literalChar]
    split_ifs with hspecial
    · simp [readLiteralRest, hspecial, ih]
    · obtain ⟨hbackslash, hquote⟩ := not_or.mp hspecial
      rw [List.singleton_append, readLiteralRest_cons hquote hbackslash, ih]
      rfl

theorem eq_of_readLiteralRest (h : readLiteralRest t = some (s, rest)) :
    t = s.flatMap literalChar ++ '"' :: rest := by
  fun_induction readLiteralRest t generalizing s with
  | case1 => cases h
  | case2 r =>
    cases h
    rfl
  | case3 c r hspecial ih =>
    obtain ⟨⟨s', rest'⟩, hr, heq⟩ := Option.map_eq_some_iff.mp h
    cases heq
    rw [ih hr, List.flatMap_cons, literalChar, if_pos hspecial]
    rfl
  | case4 => cases h
  | case5 c r hquote hbackslash ih =>
    obtain ⟨⟨s', rest'⟩, hr, heq⟩ := Option.map_eq_some_iff.mp h
    cases heq
    have hplain : ¬(c = '\\' ∨ c = '"') := by
      rintro (rfl | rfl)
      · -- A backslash at the very end does not escape anything.
        cases r with
        | nil => cases hr
        | cons e r => exact hbackslash e r rfl rfl
      · exact hquote rfl
    rw [ih hr, List.flatMap_cons, literalChar, if_neg hplain]
    rfl

theorem readLiteral_eq_some_iff :
    readLiteral t = some (s, rest) ↔ t = literalChars s ++ rest := by
  constructor
  · intro h
    unfold readLiteral at h
    split at h
    · rw [eq_of_readLiteralRest h, literalChars]
      simp
    · cases h
  · rintro rfl
    simp [literalChars, readLiteral, readLiteralRest_flatMap]

/-! ### Whole numbers -/

/-- The number that digits spell; zero has one digit, and no other number starts with a zero. -/
def natural? (ds : List Char) : Option Nat :=
  if ds ≠ [] ∧ ds.all (·.isDigit) ∧ (ds.head? = some '0' → ds = ['0']) then
    some (digitsNumber ds)
  else none

/-- The whole number that a text spells; zero has no sign. -/
def whole? : List Char → Option Int
  | '-' :: ds =>
    match natural? ds with
    | some (n + 1) => some (.negSucc n)
    | _ => none
  | ds => (natural? ds).map .ofNat

theorem toDigits_of_isDigit {d : Char} (hd : d.isDigit = true) :
    d.toNat - 48 < 10 ∧ Nat.toDigits 10 (d.toNat - 48) = [d] := by
  obtain ⟨hleast, hmost⟩ := Char.isDigit_iff_toNat.mp hd
  have hvalues : '0'.toNat = 48 ∧ '9'.toNat = 57 := by decide
  have hlt : d.toNat - 48 < 10 := by omega
  refine ⟨hlt, ?_⟩
  rw [Nat.toDigits_of_lt_base hlt, List.singleton_inj, ← Char.toNat_inj,
    Nat.toNat_digitChar_of_lt_ten hlt]
  omega

/-- Digits that are read on from a number other than zero are put behind its digits. -/
theorem toDigits_foldl {ds : List Char} {n : Nat} (hdigits : ∀ d ∈ ds, d.isDigit = true)
    (hn : 0 < n) :
    Nat.toDigits 10 (ds.foldl (fun n c => n * 10 + (c.toNat - 48)) n)
      = Nat.toDigits 10 n ++ ds := by
  induction ds generalizing n with
  | nil => simp
  | cons d r ih =>
    obtain ⟨hd, hr⟩ := List.forall_mem_cons.mp hdigits
    obtain ⟨hlt, hlast⟩ := toDigits_of_isDigit hd
    rw [List.foldl_cons, ih hr (by omega), Nat.mul_comm,
      ← Nat.toDigits_append_toDigits (by decide) hn hlt, hlast,
      List.append_assoc, List.singleton_append]

/-- Digits of which the first is no zero are those of the number that they spell. -/
theorem toDigits_digitsNumber {ds : List Char} (hds : ds ≠ [])
    (hdigits : ∀ d ∈ ds, d.isDigit = true) (hzero : ds.head? = some '0' → ds = ['0']) :
    Nat.toDigits 10 (digitsNumber ds) = ds := by
  cases ds with
  | nil => exact absurd rfl hds
  | cons d r =>
    obtain ⟨hd, hr⟩ := List.forall_mem_cons.mp hdigits
    obtain ⟨-, hfirst⟩ := toDigits_of_isDigit hd
    have hnumber : digitsNumber (d :: r)
        = r.foldl (fun n c => n * 10 + (c.toNat - 48)) (d.toNat - 48) := by
      rw [digitsNumber, List.foldl_cons, Nat.zero_mul, Nat.zero_add]
    rcases Nat.eq_zero_or_pos (d.toNat - 48) with h0 | hpos
    · rw [h0] at hfirst
      cases hfirst
      rw [hzero rfl]
      rfl
    · rw [hnumber, toDigits_foldl hr hpos, hfirst, List.singleton_append]

theorem natural?_eq_some_iff {ds : List Char} {n : Nat} :
    natural? ds = some n ↔ ds = Nat.toDigits 10 n := by
  unfold natural?
  split_ifs with h
  · rw [Option.some_inj]
    constructor
    · rintro rfl
      exact (toDigits_digitsNumber h.1 (List.all_eq_true.mp h.2.1) h.2.2).symm
    · rintro rfl
      exact Json.digitsNumber_toDigits n
  · refine iff_of_false (fun h' => nomatch h') ?_
    rintro rfl
    have hdigits : (Nat.toDigits 10 n).all (·.isDigit) = true :=
      List.all_eq_true.mpr fun d hd => Json.isDigit_of_mem_toDigits hd
    refine h ⟨Nat.toDigits_ne_nil, hdigits, fun hhead => ?_⟩
    rcases Nat.eq_zero_or_pos n with rfl | hpos
    · rfl
    · exact absurd hhead (Json.head?_toDigits_ne hpos)

theorem toList_intText_ofNat (n : Nat) : (intText (.ofNat n)).toList = Nat.toDigits 10 n := by
  rw [intText, String.toList_ofList]
  rfl

theorem toList_intText_negSucc (n : Nat) :
    (intText (.negSucc n)).toList = '-' :: Nat.toDigits 10 (n + 1) := by
  rw [intText, String.toList_ofList, if_pos (Int.negSucc_lt_zero n), Int.natAbs_negSucc]
  rfl

theorem whole?_eq_some_iff {n : Int} : whole? t = some n ↔ t = (intText n).toList := by
  unfold whole?
  split
  · rename_i ds
    cases n with
    | ofNat n =>
      rw [toList_intText_ofNat]
      refine iff_of_false ?_ fun h => ?_
      · split <;> simp
      · exact Json.ne_minus_of_toDigits_append (n := n) (s := []) (by rw [List.append_nil, h])
    | negSucc n =>
      rw [toList_intText_negSucc, List.cons_inj_right, ← natural?_eq_some_iff]
      split <;> simp_all
  · rename_i hminus
    cases n with
    | ofNat n =>
      rw [toList_intText_ofNat, ← natural?_eq_some_iff, Option.map_eq_some_iff]
      simp only [Int.ofNat.injEq, exists_eq_right]
    | negSucc n =>
      rw [toList_intText_negSucc]
      exact iff_of_false (by simp) fun h => hminus _ h

/-! ### Calls -/

/-- What stands before a character and what stands behind it, where it is found first. -/
def cutAt (p : Char) : List Char → Option (List Char × List Char)
  | [] => none
  | c :: r => if c = p then some ([], r) else (cutAt p r).map fun (a, b) => (c :: a, b)

theorem cutAt_eq_some_iff {p : Char} {a b : List Char} :
    cutAt p t = some (a, b) ↔ p ∉ a ∧ t = a ++ p :: b := by
  induction t generalizing a b with
  | nil => simp [cutAt]
  | cons c r ih =>
    rw [cutAt]
    split_ifs with hc
    · subst hc
      cases a with
      | nil => simp
      | cons e a => simpa using fun hne _ heq => absurd heq hne
    · cases a with
      | nil => simp [hc]
      | cons e a =>
        by_cases hce : c = e
        · subst hce
          simp [ih, Ne.symm hc]
        · simp [hce]

/-- What a call shows of a value between its brackets. -/
def argument : Value → List Char
  | .text s => literalChars s.toList
  | .int n => (intText n).toList
  | _ => []

/-- Reads a literal and the bracket behind it. -/
def readText (t : List Char) : Option (Value × List Char) :=
  match readLiteral t with
  | some (s, ')' :: rest) => some (.text (String.ofList s), rest)
  | _ => none

/-- Reads a whole number and the bracket behind it. -/
def readNumber (t : List Char) : Option (Value × List Char) :=
  match cutAt ')' t with
  | some (ds, rest) => (whole? ds).map fun n => (.int n, rest)
  | none => none

/-- Reads a bracket. -/
def readNothing : List Char → Option (Value × List Char)
  | ')' :: rest => some (.null, rest)
  | _ => none

/-- Reads what stands between the brackets of a call of some kind, and the bracket behind it. -/
def readArgument : DirectiveKind → List Char → Option (Value × List Char)
  | .columnType | .columnName => readText
  | .maxLength => readNumber
  | .required | .concurrencyToken | .rowVersion => readNothing
  | .other _ => fun _ => none

/-- The call for a kind of directive, up to its bracket. -/
def callName : DirectiveKind → String
  | .columnType => ".HasColumnType"
  | .required => ".IsRequired"
  | .maxLength => ".HasMaxLength"
  | .concurrencyToken => ".IsConcurrencyToken"
  | .rowVersion => ".IsRowVersion"
  | .columnName => ".HasColumnName"
  | .other keyword => keyword

/-- The kind of directive that a call is for. -/
def kindOf? (name : List Char) : Option DirectiveKind :=
  DirectiveKind.known.find? fun kind => (callName kind).toList = name

/-- Reads a call. -/
def readCall (t : List Char) : Option (Directive × List Char) := do
  let (name, r) ← cutAt '(' t
  let kind ← kindOf? name
  let (value, rest) ← readArgument kind r
  return (⟨kind, value⟩, rest)

variable {d : Directive} {ds : List Directive} {v : Value} {kind : DirectiveKind}

theorem readText_eq_some_iff :
    readText t = some (v, rest) ↔ (∃ s, v = .text s) ∧ t = argument v ++ ')' :: rest := by
  unfold readText
  constructor
  · intro h
    split at h
    · rename_i hs
      cases h
      refine ⟨⟨_, rfl⟩, ?_⟩
      rw [argument, String.toList_ofList]
      exact readLiteral_eq_some_iff.mp hs
    · cases h
  · rintro ⟨⟨s, rfl⟩, rfl⟩
    simp only [argument, readLiteral_eq_some_iff.mpr rfl, String.ofList_toList]

theorem readNumber_eq_some_iff :
    readNumber t = some (v, rest) ↔ (∃ n, v = .int n) ∧ t = argument v ++ ')' :: rest := by
  unfold readNumber
  constructor
  · intro h
    split at h
    · rename_i hcut
      obtain ⟨n, hn, heq⟩ := Option.map_eq_some_iff.mp h
      cases heq
      obtain ⟨-, rfl⟩ := cutAt_eq_some_iff.mp hcut
      exact ⟨⟨n, rfl⟩, by rw [argument, whole?_eq_some_iff.mp hn]⟩
    · cases h
  · rintro ⟨⟨n, rfl⟩, rfl⟩
    have hbracket : ')' ∉ (intText n).toList := fun h => absurd (Json.mem_intText h) (by decide)
    have hcut : cutAt ')' ((intText n).toList ++ ')' :: rest) = some ((intText n).toList, rest) :=
      cutAt_eq_some_iff.mpr ⟨hbracket, rfl⟩
    simp only [argument, hcut, whole?_eq_some_iff.mpr rfl, Option.map_some]

theorem readNothing_eq_some_iff :
    readNothing t = some (v, rest) ↔ v = .null ∧ t = argument v ++ ')' :: rest := by
  unfold readNothing
  constructor
  · intro h
    split at h <;> cases h
    exact ⟨rfl, rfl⟩
  · rintro ⟨rfl, rfl⟩
    rfl

theorem readArgument_eq_some_iff :
    readArgument kind t = some (v, rest) ↔ IsPlain ⟨kind, v⟩ ∧ t = argument v ++ ')' :: rest := by
  cases kind with
  | columnType | columnName => exact readText_eq_some_iff
  | maxLength => exact readNumber_eq_some_iff
  | required | concurrencyToken | rowVersion => exact readNothing_eq_some_iff
  | other => simp [readArgument, IsPlain]

theorem kindOf?_eq_some_iff {name : List Char} :
    kindOf? name = some kind ↔ kind ∈ DirectiveKind.known ∧ (callName kind).toList = name := by
  constructor
  · intro h
    exact ⟨List.mem_of_find?_eq_some h, by simpa using List.find?_some h⟩
  · rintro ⟨hkind, rfl⟩
    revert kind
    decide

/-- A call is its name and its argument in brackets. -/
theorem IsPlain.call_eq (h : IsPlain d) :
    call d
      = .ok (String.ofList ((callName d.kind).toList ++ '(' :: (argument d.value ++ [')']))) := by
  obtain ⟨kind, value⟩ := d
  cases kind with
  | columnType | columnName =>
    obtain ⟨s, rfl⟩ := h
    simp [call, callName, argument, literalOf, literal, ← String.toList_inj]
  | maxLength =>
    obtain ⟨n, rfl⟩ := h
    simp [call, callName, argument, Value.display, Value.shown, ← String.toList_inj]
  | required | concurrencyToken | rowVersion =>
    obtain rfl := h
    rfl
  | other => cases h

theorem IsPlain.kind_mem_known (h : IsPlain d) : d.kind ∈ DirectiveKind.known :=
  exists_call_iff.mp ⟨_, h.call_eq⟩

theorem readCall_eq_some_iff :
    readCall t = some (d, rest)
      ↔ IsPlain d ∧ ∃ s, call d = .ok s ∧ t = s.toList ++ rest := by
  obtain ⟨kind, value⟩ := d
  constructor
  · intro h
    simp only [readCall, Option.bind_eq_bind, Option.bind_eq_some_iff, Prod.exists,
      Option.some.injEq, Prod.mk.injEq, Option.pure_def, Directive.mk.injEq] at h
    obtain ⟨name, r, hcut, _, hkind, _, _, hargument, ⟨rfl, rfl⟩, rfl⟩ := h
    obtain ⟨hplain, rfl⟩ := readArgument_eq_some_iff.mp hargument
    obtain ⟨-, rfl⟩ := kindOf?_eq_some_iff.mp hkind
    obtain ⟨-, rfl⟩ := cutAt_eq_some_iff.mp hcut
    exact ⟨hplain, _, hplain.call_eq, by simp⟩
  · rintro ⟨hplain, s, hs, rfl⟩
    rw [hplain.call_eq] at hs
    cases hs
    -- No name has a bracket, so the first bracket of a call is the one behind its name.
    have hname : ∀ k ∈ DirectiveKind.known, '(' ∉ (callName k).toList := by decide
    have hcut : cutAt '(' ((callName kind).toList ++ '(' :: (argument value ++ ')' :: rest))
        = some ((callName kind).toList, argument value ++ ')' :: rest) :=
      cutAt_eq_some_iff.mpr ⟨hname kind hplain.kind_mem_known, rfl⟩
    have hkind : kindOf? (callName kind).toList = some kind :=
      kindOf?_eq_some_iff.mpr ⟨hplain.kind_mem_known, rfl⟩
    have hargument : readArgument kind (argument value ++ ')' :: rest) = some (value, rest) :=
      readArgument_eq_some_iff.mpr ⟨hplain, rfl⟩
    simp [readCall, hcut, hkind, hargument]

/-! ### Chains -/

theorem length_lt_of_readCall (h : readCall t = some (d, rest)) : rest.length < t.length := by
  obtain ⟨hplain, s, hs, rfl⟩ := readCall_eq_some_iff.mp h
  rw [hplain.call_eq] at hs
  cases hs
  simp only [String.toList_ofList, List.length_append, List.length_cons]
  omega

/-- Reads calls until nothing is left. -/
def readChain (t : List Char) : Option (List Directive) :=
  if t = [] then some []
  else
    match _ : readCall t with
    | none => none
    | some (d, rest) => (readChain rest).map fun ds => d :: ds
termination_by t.length
decreasing_by exact length_lt_of_readCall ‹_›

theorem readChain_of_readCall (h : readCall t = some (d, rest)) :
    readChain t = (readChain rest).map fun ds => d :: ds := by
  have ht : t ≠ [] := by
    rintro rfl
    cases h
  rw [readChain, if_neg ht]
  split
  · rename_i hcall
    rw [hcall] at h
    cases h
  · rename_i hcall
    rw [hcall] at h
    cases h
    rfl

/-- Reading takes just the chains of directives that carry what their calls show. -/
theorem readChain_eq_some_iff :
    readChain t = some ds ↔ (∀ d ∈ ds, IsPlain d) ∧ chain ds = .ok (String.ofList t) := by
  constructor
  · intro h
    fun_induction readChain t generalizing ds with
    | case1 =>
      cases h
      exact ⟨nofun, rfl⟩
    | case2 => cases h
    | case3 t ht d rest hcall ih =>
      obtain ⟨es, hes, rfl⟩ := Option.map_eq_some_iff.mp h
      obtain ⟨hplain, s, hs, rfl⟩ := readCall_eq_some_iff.mp hcall
      obtain ⟨hrest, hchain⟩ := ih hes
      exact ⟨List.forall_mem_cons.mpr ⟨hplain, hrest⟩,
        chain_cons_eq_ok.mpr ⟨s, _, hs, hchain, by simp⟩⟩
  · rintro ⟨hplain, hchain⟩
    induction ds generalizing t with
    | nil =>
      obtain rfl : t = [] := by simpa using congrArg String.toList (Except.ok.inj hchain)
      rw [readChain, if_pos rfl]
    | cons d r ih =>
      obtain ⟨hd, hr⟩ := List.forall_mem_cons.mp hplain
      obtain ⟨a, b, ha, hb, ht⟩ := chain_cons_eq_ok.mp hchain
      obtain rfl : t = a.toList ++ b.toList := by
        rw [← String.toList_append, ← ht, String.toList_ofList]
      -- The first call is read whatever calls follow it.
      rw [readChain_of_readCall (readCall_eq_some_iff.mpr ⟨hd, a, ha, rfl⟩),
        ih hr (by rw [hb, String.ofList_toList]), Option.map_some]

/-- Every list of directives that carry what their calls show has a chain of calls, and reading it
gives the list back.  Reading takes no other texts.  So two such lists never have the same chain,
and a call or a literal is read up to its end and not further, whatever follows it. -/
theorem readChain_chain :
    (∀ ds, (∀ d ∈ ds, IsPlain d) → ∃ t, chain ds = .ok t ∧ readChain t.toList = some ds)
      ∧ (∀ t ds, readChain t.toList = some ds → (∀ d ∈ ds, IsPlain d) ∧ chain ds = .ok t)
      ∧ (∀ ds es, (∀ d ∈ ds, IsPlain d) → (∀ d ∈ es, IsPlain d) → chain ds = chain es → ds = es)
      ∧ (∀ d rest, IsPlain d → ∃ t, call d = .ok t ∧ readCall (t.toList ++ rest) = some (d, rest))
      ∧ ∀ s rest, readLiteral ((literal s).toList ++ rest) = some (s.toList, rest) := by
  have hread (ds : List Directive) (hds : ∀ d ∈ ds, IsPlain d) :
      ∃ t, chain ds = .ok t ∧ readChain t.toList = some ds := by
    obtain ⟨t, ht⟩ := exists_chain fun d hd => (hds d hd).kind_mem_known
    exact ⟨t, ht, readChain_eq_some_iff.mpr ⟨hds, by rw [ht, String.ofList_toList]⟩⟩
  refine ⟨hread, fun t ds h => ?_, fun ds es hds hes heq => ?_, fun d rest hd => ?_,
    fun s rest => ?_⟩
  · rw [readChain_eq_some_iff, String.ofList_toList] at h
    exact h
  · obtain ⟨t, ht, hback⟩ := hread ds hds
    obtain ⟨u, hu, hback'⟩ := hread es hes
    rw [heq, hu] at ht
    cases ht
    rw [hback'] at hback
    exact (Option.some.inj hback).symm
  · exact ⟨_, hd.call_eq, readCall_eq_some_iff.mpr ⟨hd, _, hd.call_eq, rfl⟩⟩
  · rw [readLiteral_eq_some_iff, literal, String.toList_ofList]

/-- Directives with texts that look like ends of literals and like calls. -/
def craftedDirectives : List Directive := [
  ⟨.columnName, .text "Id\").IsRequired("⟩, ⟨.columnType, .text "\\"⟩, ⟨.maxLength, .int (-1)⟩,
  ⟨.required, .null⟩, ⟨.required, .null⟩]

/-- Their chain. -/
def craftedChain : String :=
  ".HasColumnName(\"Id\\\").IsRequired(\").HasColumnType(\"\\\\\")"
    ++ ".HasMaxLength(-1).IsRequired().IsRequired()"

theorem readChain_chain_craftedDirectives :
    chain craftedDirectives = .ok craftedChain
      ∧ readChain craftedChain.toList = some craftedDirectives := by
  have hplain : ∀ d ∈ craftedDirectives, IsPlain d := by simp [craftedDirectives, IsPlain]
  have hchain : chain craftedDirectives = .ok craftedChain := rfl
  obtain ⟨t, ht, hread⟩ := readChain_chain.1 craftedDirectives hplain
  rw [hchain] at ht
  cases ht
  exact ⟨hchain, hread⟩

end EntityMapping.CSharp
