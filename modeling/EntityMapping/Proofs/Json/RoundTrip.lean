import EntityMapping.Proofs.Json.Printed
import EntityMapping.Proofs.Value.Fields

/-!
# Reading printed documents

A document that was printed from a value without binary64 numbers is read back as that value
(`read_of_prints`).  The proof follows the value: what is proved of the values directly inside it
(`ReadsBack`) carries over to lists and objects by going along the items and fields, while the fuel
and the room of the reader are enough for the characters and the depth that are left.

## Main definitions

* `Opens` — what the document of a value can begin with.
* `ReadsBack` — what the documents of a value are like, and that they are read as the value.
-/

namespace EntityMapping.Json

open Decimal Text

/-! ### Values -/

/-- The document of a value can begin with the character. -/
structure Opens (c : Char) : Prop where
  notSpace : isSpace c = false
  notClosing : c ≠ ']'
  notSignature : c ≠ '\ufeff'

/-- What the documents of a value are like, and that they are read as the value if there is fuel for
its characters and room for its depth. -/
structure ReadsBack (v : Value) : Prop where
  opens {level : Nat} {doc : List Char} (h : Prints (pieces level v) doc) :
    ∃ c r, doc = c :: r ∧ Opens c
  unbroken {level : Nat} {doc : List Char} (h : Prints (pieces level v) doc) : '\r' ∉ doc
  reads {level : Nat} {doc : List Char} (h : Prints (pieces level v) doc) {room fuel : Nat}
    {rest : List Char} (hroom : v.depth ≤ room) (hfuel : 2 * doc.length ≤ fuel + 1)
    (hrest : Ends rest) : readValue room fuel (doc ++ rest) = .ok (v, rest)

theorem ReadsBack.exists_fuel {v : Value} (h : ReadsBack v) {level : Nat} {doc : List Char}
    (hdoc : Prints (pieces level v) doc) {fuel : Nat} (hfuel : 2 * doc.length ≤ fuel) :
    ∃ n, fuel = n + 1 ∧ 2 * doc.length ≤ n + 1 := by
  obtain ⟨c, r, rfl, -⟩ := h.opens hdoc
  rw [List.length_cons] at hfuel ⊢
  exact ⟨fuel - 1, by omega, by omega⟩

/-- A value that is read with any fuel. -/
theorem readsBack_of_doc {v : Value}
    (h : ∀ level doc, Prints (pieces level v) doc → (∃ c r, doc = c :: r ∧ Opens c) ∧ '\r' ∉ doc
      ∧ ∀ room fuel rest, v.depth ≤ room → Ends rest →
        readValue room (fuel + 1) (doc ++ rest) = .ok (v, rest)) : ReadsBack v where
  opens hdoc := (h _ _ hdoc).1
  unbroken hdoc := (h _ _ hdoc).2.1
  reads {level doc} hdoc {room fuel rest} hroom hfuel hrest := by
    obtain ⟨⟨c, r, rfl, -⟩, -, hread⟩ := h level doc hdoc
    obtain ⟨fuel, rfl⟩ : ∃ n, fuel = n + 1 := ⟨fuel - 1, by simp at hfuel; omega⟩
    exact hread room fuel rest hroom hrest

/-- A value whose document is one piece without marks and line ends. -/
theorem readsBack_of_literal {v : Value} {c : Char} {r : List Char}
    (hpieces : ∀ level, pieces level v = [.ok (c :: r)]) (hopens : Opens c)
    (hmark : mark ∉ c :: r) (hbreak : '\r' ∉ c :: r)
    (hread : ∀ room fuel rest, v.depth ≤ room →
      readValue room (fuel + 1) (c :: r ++ rest) = .ok (v, rest)) : ReadsBack v := by
  refine readsBack_of_doc fun level doc hdoc => ?_
  rw [hpieces, prints_singleton, chars?_of_unmarked hmark, Option.some.injEq] at hdoc
  subst hdoc
  exact ⟨⟨c, r, rfl, hopens⟩, hbreak, fun room fuel rest hroom _ => hread room fuel rest hroom⟩

theorem readsBack_null : ReadsBack .null := by
  refine readsBack_of_literal (fun level => by rw [pieces]) ⟨rfl, by decide, by decide⟩ (by decide)
    (by decide) fun room fuel rest _ => ?_
  simp only [readValue, readWord?]
  rfl

theorem readsBack_bool (b : Bool) : ReadsBack (.bool b) := by
  cases b with
  | false =>
    refine readsBack_of_literal (fun level => by rw [pieces]; rfl) ⟨rfl, by decide, by decide⟩
      (by decide) (by decide) fun room fuel rest _ => ?_
    simp only [readValue, readWord?]
    rfl
  | true =>
    refine readsBack_of_literal (fun level => by rw [pieces]; rfl) ⟨rfl, by decide, by decide⟩
      (by decide) (by decide) fun room fuel rest _ => ?_
    simp only [readValue, readWord?]
    rfl

theorem readsBack_text (s : String) : ReadsBack (.text s) := by
  refine readsBack_of_doc fun level doc hdoc => ?_
  rw [pieces, prints_singleton, chars?_writeText, Option.map_eq_some_iff] at hdoc
  obtain ⟨cs, hcs, rfl⟩ := hdoc
  refine ⟨⟨'"', _, rfl, rfl, by decide, by decide⟩, return_notMem_writeText cs,
    fun room fuel rest _ _ => ?_⟩
  have htext : String.ofList (ofChars cs) = s := by
    rw [ofChars_of_chars? hcs, String.ofList_toList]
  have hshape : writeText cs ++ rest = '"' :: (cs.flatMap escaped ++ '"' :: rest) := by
    simp [writeText]
  rw [hshape, readValue, readText_flatMap_escaped]
  dsimp only
  rw [htext]

/-- What starts as no text, list or object is a word or a number. -/
theorem readValue_of_bare (room fuel : Nat) {s : List Char}
    (h : ∀ c ∈ s.head?, c ≠ '"' ∧ c ≠ '[' ∧ c ≠ '\x7b') :
    readValue room (fuel + 1) s
      = match readWord? s with
        | some found => .ok found
        | none => readNumber s := by
  rw [readValue.eq_def]
  dsimp only
  split
  · exact absurd rfl (h _ rfl).1
  · exact absurd rfl (h _ rfl).2.1
  · exact absurd rfl (h _ rfl).2.2
  · rfl

theorem readsBack_int (n : Int) : ReadsBack (.int n) := by
  refine readsBack_of_doc fun level doc hdoc => ?_
  have hnot {c : Char} (hminus : c ≠ '-') (hdigit : c.isDigit = false) :
      c ∉ (intText n).toList := by
    intro h
    rcases mem_intText h with h | h
    · exact hminus h
    · simp [hdigit] at h
  rw [pieces, writeInt] at hdoc
  split at hdoc
  · obtain ⟨_, _, _, he, -⟩ := hdoc
    cases he
  · rw [prints_singleton, chars?_of_unmarked (hnot (by decide) rfl), Option.some.injEq] at hdoc
    subst hdoc
    obtain ⟨c, r, hshape, hstart⟩ := exists_intText n
    have hmem : c ∈ (intText n).toList := by simp [hshape]
    have hne {d : Char} (hminus : d ≠ '-') (hdigit : d.isDigit = false) : c ≠ d := by
      rintro rfl
      exact hnot hminus hdigit hmem
    refine ⟨⟨c, r, hshape, ?_, hne (by decide) rfl, hne (by decide) rfl⟩,
      hnot (by decide) rfl, fun room fuel rest _ hrest => ?_⟩
    · simp [isSpace, hne]
    · rw [readValue_of_bare, readWord?_intText]
      · exact readNumber_intText (by omega) hrest
      · intro d hd
        rw [hshape] at hd
        obtain rfl : c = d := Option.some.inj hd
        exact ⟨hne (by decide) rfl, hne (by decide) rfl, hne (by decide) rfl⟩

/-! ### Lists -/

theorem readItems_last {room fuel : Nat} {s mid rest : List Char} {v : Value}
    (hv : readValue room fuel s = .ok (v, mid)) (hmid : skipSpace mid = ']' :: rest) :
    readItems room (fuel + 1) s = .ok ([v], rest) := by
  simp only [readItems, hv, hmid]

theorem readItems_next {room fuel : Nat} {s mid r rest : List Char} {v : Value}
    {items : List Value} (hv : readValue room fuel s = .ok (v, mid))
    (hmid : skipSpace mid = ',' :: r)
    (hitems : readItems room fuel (skipSpace r) = .ok (items, rest)) :
    readItems room (fuel + 1) s = .ok (v :: items, rest) := by
  simp only [readItems, hv, hmid, hitems]

/-- Items are read up to the closing bracket, if each is read back. -/
theorem readItems_of_prints {level room fuel : Nat} {items : List Value} {v : Value}
    {a b : List Char} (hitems : ∀ w ∈ v :: items, ReadsBack w ∧ w.depth ≤ room)
    (ha : Prints (pieces level v) a)
    (hb : Prints (itemPieces level (',' :: newline level) items) b)
    (hfuel : 2 * (a.length + b.length) ≤ fuel) (closing : Nat) (rest : List Char) :
    readItems room fuel (a ++ (b ++ (newline closing ++ ']' :: rest)))
      = .ok (v :: items, rest) := by
  -- Each item takes one unit of fuel, and the text of those that follow is shorter by more than
  -- that.
  induction items generalizing v a b fuel with
  | nil =>
    obtain ⟨hv, hdepth⟩ := hitems v List.mem_cons_self
    obtain ⟨fuel, rfl, hfirst⟩ : ∃ n, fuel = n + 1 ∧ 2 * a.length ≤ n + 1 :=
      hv.exists_fuel ha (by omega)
    have hread := hv.reads ha hdepth hfirst (ends_itemPieces hb closing (']' :: rest))
    rw [itemPieces, Prints] at hb
    refine readItems_last hread ?_
    rw [hb, List.nil_append, skipSpace_newline closing rfl]
  | cons w r ih =>
    obtain ⟨hv, hdepth⟩ := hitems v List.mem_cons_self
    obtain ⟨fuel, rfl, hfirst⟩ : ∃ n, fuel = n + 1 ∧ 2 * a.length ≤ n + 1 :=
      hv.exists_fuel ha (by omega)
    have hread := hv.reads ha hdepth hfirst (ends_itemPieces hb closing (']' :: rest))
    have htail : ∀ u ∈ w :: r, ReadsBack u ∧ u.depth ≤ room := fun u hu =>
      hitems u (List.mem_cons_of_mem _ hu)
    obtain ⟨a', b', ha', hb', rfl⟩ := (prints_itemPieces (mark_notMem_lead level)).mp hb
    obtain ⟨d, t, rfl, hopens⟩ := (htail w List.mem_cons_self).1.opens ha'
    have hfurther : 2 * ((d :: t).length + b'.length) ≤ fuel := by
      simp only [List.length_append, List.length_cons] at hfuel ⊢
      omega
    have hmid :
        skipSpace (',' :: newline level ++ (d :: t ++ b') ++ (newline closing ++ ']' :: rest))
          = ',' :: (newline level ++ d :: (t ++ (b' ++ (newline closing ++ ']' :: rest)))) := by
      simp [skipSpace_cons (c := ',') rfl]
    refine readItems_next hread hmid ?_
    rw [skipSpace_newline level hopens.notSpace]
    exact ih htail ha' hb' hfurther

theorem readValue_items {room fuel : Nat} {s r rest : List Char} {c : Char} {items : List Value}
    (hs : skipSpace s = c :: r) (hc : c ≠ ']')
    (hitems : readItems room fuel (c :: r) = .ok (items, rest)) :
    readValue (room + 1) (fuel + 1) ('[' :: s) = .ok (.list items, rest) := by
  rw [readValue, hs]
  split
  · rename_i heq
    cases heq
    exact absurd rfl hc
  · rw [hitems]

theorem return_notMem_items {level : Nat} {items : List Value} (hitems : ∀ v ∈ items, ReadsBack v)
    {b : List Char} (hb : Prints (itemPieces level (',' :: newline level) items) b) : '\r' ∉ b := by
  induction items generalizing b with
  | nil =>
    rw [itemPieces, Prints] at hb
    simp [hb]
  | cons v r ih =>
    obtain ⟨a, b', ha, hb', rfl⟩ := (prints_itemPieces (mark_notMem_lead level)).mp hb
    have hv := (hitems v List.mem_cons_self).unbroken ha
    have hr := ih (fun w hw => hitems w (List.mem_cons_of_mem _ hw)) hb'
    simp [return_notMem_newline, hv, hr]

/-- A list of values that are read back is read back. -/
theorem readsBack_list {items : List Value} (hitems : ∀ v ∈ items, ReadsBack v) :
    ReadsBack (.list items) := by
  cases items with
  | nil =>
    refine readsBack_of_literal (fun level => by rw [pieces]) ⟨rfl, by decide, by decide⟩
      (by decide)
      (by decide) fun room fuel rest hroom => ?_
    obtain ⟨room, rfl⟩ : ∃ n, room = n + 1 := ⟨room - 1, by simp [Value.depth] at hroom; omega⟩
    simp only [readValue, List.cons_append, List.nil_append, skipSpace_cons (c := ']') rfl]
  | cons v r =>
    refine ⟨?_, ?_, ?_⟩
    · intro level doc hdoc
      obtain ⟨a, b, -, -, rfl⟩ := prints_list.mp hdoc
      exact ⟨'[', _, rfl, rfl, by decide, by decide⟩
    · intro level doc hdoc
      obtain ⟨a, b, ha, hb, rfl⟩ := prints_list.mp hdoc
      have hv := (hitems v List.mem_cons_self).unbroken ha
      have hr := return_notMem_items (fun w hw => hitems w (List.mem_cons_of_mem _ hw)) hb
      simp [return_notMem_newline, hv, hr]
    · intro level doc hdoc room fuel rest hroom hfuel hrest
      obtain ⟨a, b, ha, hb, rfl⟩ := prints_list.mp hdoc
      obtain ⟨room, rfl⟩ : ∃ n, room = n + 1 := ⟨room - 1, by rw [Value.depth] at hroom; omega⟩
      obtain ⟨fuel, rfl⟩ : ∃ n, fuel = n + 1 := ⟨fuel - 1, by simp at hfuel; omega⟩
      obtain ⟨d, t, rfl, hopens⟩ := (hitems v List.mem_cons_self).opens ha
      have hparts : ∀ w ∈ v :: r, ReadsBack w ∧ w.depth ≤ room := by
        intro w hw
        have hlt : w.depth < (Value.list (v :: r)).depth := Value.depth_lt_of_mem_parts hw
        exact ⟨hitems w hw, by omega⟩
      have hlength : 2 * ((d :: t).length + b.length) ≤ fuel := by
        simp only [List.length_append, List.length_cons] at hfuel ⊢
        omega
      have hread := readItems_of_prints hparts ha hb hlength level rest
      have hshape : '[' :: newline (level + 1) ++ (d :: t ++ b) ++ (newline level ++ [']']) ++ rest
          = '[' :: (newline (level + 1) ++ d :: (t ++ (b ++ (newline level ++ ']' :: rest)))) := by
        simp
      rw [hshape]
      exact readValue_items (skipSpace_newline _ hopens.notSpace _) hopens.notClosing hread

/-! ### Objects -/

section readFields

variable {room fuel : Nat} {name : String} {key s mid rest : List Char} {v : Value}

/-- A key that was printed is read back. -/
theorem readText_key (hkey : chars? name.toList = some key) (s : List Char) :
    ∃ r, writeText key ++ s = '"' :: r
      ∧ readText (writeText key ++ s) r = .ok (ofChars key, s)
      ∧ String.ofList (ofChars key) = name := by
  refine ⟨key.flatMap escaped ++ '"' :: s, by simp [writeText],
    readText_flatMap_escaped _ key s, ?_⟩
  rw [ofChars_of_chars? hkey, String.ofList_toList]

theorem readFields_last (hkey : chars? name.toList = some key) (hs : skipSpace s = s)
    (hv : readValue room fuel s = .ok (v, mid)) (hmid : skipSpace mid = '\x7d' :: rest) :
    readFields room (fuel + 1) (writeText key ++ (':' :: ' ' :: s))
      = .ok ([(.text name, v)], rest) := by
  obtain ⟨r, hshape, hread, hname⟩ := readText_key hkey (':' :: ' ' :: s)
  have hcolon : skipSpace (':' :: ' ' :: s) = ':' :: ' ' :: s := skipSpace_cons rfl _
  have hblank : skipSpace (' ' :: s) = s := hs
  rw [hshape] at hread ⊢
  simp only [readFields, hread, hcolon, hblank, hv, hmid, hname]

theorem readFields_next {r : List Char} {fields : Fields} (hkey : chars? name.toList = some key)
    (hs : skipSpace s = s) (hv : readValue room fuel s = .ok (v, mid))
    (hmid : skipSpace mid = ',' :: r)
    (hfields : readFields room fuel (skipSpace r) = .ok (fields, rest)) :
    readFields room (fuel + 1) (writeText key ++ (':' :: ' ' :: s))
      = .ok ((.text name, v) :: fields, rest) := by
  obtain ⟨t, hshape, hread, hname⟩ := readText_key hkey (':' :: ' ' :: s)
  have hcolon : skipSpace (':' :: ' ' :: s) = ':' :: ' ' :: s := skipSpace_cons rfl _
  have hblank : skipSpace (' ' :: s) = s := hs
  rw [hshape] at hread ⊢
  simp only [readFields, hread, hcolon, hblank, hv, hmid, hfields, hname]

end readFields

/-- Fields under text keys are read up to the closing brace, if each value is read back. -/
theorem readFields_of_prints {level room fuel : Nat} {fields : Fields} {name : String} {v : Value}
    {key a b : List Char} (hnamed : Fields.Named ((.text name, v) :: fields))
    (hfields : ∀ f ∈ (Key.text name, v) :: fields, ReadsBack f.2 ∧ f.2.depth ≤ room)
    (hkey : chars? name.toList = some key) (ha : Prints (pieces level v) a)
    (hb : Prints (fieldPieces level (',' :: newline level) fields) b)
    (hfuel : 2 * (a.length + b.length) ≤ fuel) (closing : Nat) (rest : List Char) :
    readFields room fuel
        (writeText key ++ (':' :: ' ' :: (a ++ (b ++ (newline closing ++ '\x7d' :: rest)))))
      = .ok ((.text name, v) :: fields, rest) := by
  induction fields generalizing name v key a b fuel with
  | nil =>
    obtain ⟨hv, hdepth⟩ := hfields (.text name, v) List.mem_cons_self
    obtain ⟨fuel, rfl, hfirst⟩ : ∃ n, fuel = n + 1 ∧ 2 * a.length ≤ n + 1 :=
      hv.exists_fuel ha (by omega)
    have hread := hv.reads ha hdepth hfirst
      (ends_fieldPieces hnamed.of_cons hb closing ('\x7d' :: rest))
    rw [fieldPieces, Prints] at hb
    obtain ⟨c, s, rfl, hopens⟩ := hv.opens ha
    refine readFields_last hkey (skipSpace_cons hopens.notSpace _) hread ?_
    rw [hb, List.nil_append, skipSpace_newline closing rfl]
  | cons f r ih =>
    obtain ⟨hv, hdepth⟩ := hfields (.text name, v) List.mem_cons_self
    obtain ⟨fuel, rfl, hfirst⟩ : ∃ n, fuel = n + 1 ∧ 2 * a.length ≤ n + 1 :=
      hv.exists_fuel ha (by omega)
    have hread := hv.reads ha hdepth hfirst
      (ends_fieldPieces hnamed.of_cons hb closing ('\x7d' :: rest))
    obtain ⟨k, w⟩ := f
    obtain ⟨name', rfl⟩ := hnamed.of_cons.text k List.mem_cons_self
    obtain ⟨key', a', b', hkey', ha', hb', rfl⟩ :=
      (prints_fieldPieces (mark_notMem_lead level)).mp hb
    have hlength : 2 * (a'.length + b'.length) ≤ fuel := by
      simp only [List.length_append, List.length_cons] at hfuel
      omega
    have hfurther := ih hnamed.of_cons (fun g hg => hfields g (List.mem_cons_of_mem _ hg)) hkey' ha'
      hb' hlength
    have hmid : skipSpace (',' :: newline level ++ (writeText key' ++ (':' :: ' ' :: (a' ++ b')))
          ++ (newline closing ++ '\x7d' :: rest))
        = ',' :: (newline level ++ (writeText key'
            ++ (':' :: ' ' :: (a' ++ (b' ++ (newline closing ++ '\x7d' :: rest)))))) := by
      simp [skipSpace_cons (c := ',') rfl]
    obtain ⟨c, s, rfl, hopens⟩ := hv.opens ha
    refine readFields_next hkey (skipSpace_cons hopens.notSpace _) hread hmid ?_
    obtain ⟨t, ht, -⟩ := readText_key hkey'
      (':' :: ' ' :: (a' ++ (b' ++ (newline closing ++ '\x7d' :: rest))))
    rw [ht] at hfurther ⊢
    rw [skipSpace_newline level rfl]
    exact hfurther

theorem readValue_fields {room fuel : Nat} {s r rest : List Char} {fields : Fields}
    (hs : skipSpace s = '"' :: r) (hfields : readFields room fuel ('"' :: r) = .ok (fields, rest)) :
    readValue (room + 1) (fuel + 1) ('\x7b' :: s)
      = .ok (.object (Fields.ofPairs fields), rest) := by
  rw [readValue, hs]
  split
  · rename_i heq
    cases heq
  · rw [hfields]

theorem return_notMem_fields {level : Nat} {fields : Fields} (hnamed : Fields.Named fields)
    (hfields : ∀ f ∈ fields, ReadsBack f.2) {b : List Char}
    (hb : Prints (fieldPieces level (',' :: newline level) fields) b) : '\r' ∉ b := by
  induction fields generalizing b with
  | nil =>
    rw [fieldPieces, Prints] at hb
    simp [hb]
  | cons f r ih =>
    obtain ⟨k, v⟩ := f
    obtain ⟨name, rfl⟩ := hnamed.text k List.mem_cons_self
    obtain ⟨key, a, b', -, ha, hb', rfl⟩ := (prints_fieldPieces (mark_notMem_lead level)).mp hb
    have hv := (hfields (.text name, v) List.mem_cons_self).unbroken ha
    have hr := ih hnamed.of_cons (fun g hg => hfields g (List.mem_cons_of_mem _ hg)) hb'
    simp [return_notMem_newline, return_notMem_writeText, hv, hr]

/-- An object under text keys that do not repeat is read back if its values are. -/
theorem readsBack_object {fields : Fields} (hnamed : Fields.Named fields)
    (hfields : ∀ f ∈ fields, ReadsBack f.2) : ReadsBack (.object fields) := by
  cases fields with
  | nil =>
    refine readsBack_of_literal (fun level => by rw [pieces]) ⟨rfl, by decide, by decide⟩
      (by decide)
      (by decide) fun room fuel rest hroom => ?_
    obtain ⟨room, rfl⟩ : ∃ n, room = n + 1 := ⟨room - 1, by simp [Value.depth] at hroom; omega⟩
    simp only [readValue, List.cons_append, List.nil_append, skipSpace_cons (c := '\x7d') rfl]
  | cons f r =>
    obtain ⟨k, v⟩ := f
    obtain ⟨name, rfl⟩ := hnamed.text k List.mem_cons_self
    refine ⟨?_, ?_, ?_⟩
    · intro level doc hdoc
      obtain ⟨key, a, b, -, -, -, rfl⟩ := prints_object.mp hdoc
      exact ⟨'\x7b', _, rfl, rfl, by decide, by decide⟩
    · intro level doc hdoc
      obtain ⟨key, a, b, -, ha, hb, rfl⟩ := prints_object.mp hdoc
      have hv := (hfields (.text name, v) List.mem_cons_self).unbroken ha
      have hr := return_notMem_fields hnamed.of_cons
        (fun g hg => hfields g (List.mem_cons_of_mem _ hg)) hb
      simp [return_notMem_newline, return_notMem_writeText, hv, hr]
    · intro level doc hdoc room fuel rest hroom hfuel hrest
      obtain ⟨key, a, b, hkey, ha, hb, rfl⟩ := prints_object.mp hdoc
      obtain ⟨room, rfl⟩ : ∃ n, room = n + 1 := ⟨room - 1, by rw [Value.depth] at hroom; omega⟩
      obtain ⟨fuel, rfl⟩ : ∃ n, fuel = n + 1 := ⟨fuel - 1, by simp at hfuel; omega⟩
      have hparts : ∀ f ∈ (Key.text name, v) :: r, ReadsBack f.2 ∧ f.2.depth ≤ room := by
        intro f hf
        have hlt : f.2.depth < (Value.object ((.text name, v) :: r)).depth :=
          Value.depth_lt_of_mem_parts (List.mem_map_of_mem hf)
        exact ⟨hfields f hf, by omega⟩
      have hlength : 2 * (a.length + b.length) ≤ fuel := by
        simp only [List.length_append, List.length_cons] at hfuel
        omega
      have hread := readFields_of_prints hnamed hparts hkey ha hb hlength level rest
      have hshape : '\x7b' :: newline (level + 1) ++ (writeText key ++ (':' :: ' ' :: (a ++ b)))
            ++ (newline level ++ ['\x7d']) ++ rest
          = '\x7b' :: (newline (level + 1) ++ (writeText key
              ++ (':' :: ' ' :: (a ++ (b ++ (newline level ++ '\x7d' :: rest)))))) := by
        simp
      obtain ⟨t, ht, -⟩ := readText_key hkey
        (':' :: ' ' :: (a ++ (b ++ (newline level ++ '\x7d' :: rest))))
      rw [hshape]
      rw [ht] at hread ⊢
      rw [readValue_fields (skipSpace_newline _ rfl t) hread, Fields.ofPairs,
        Fields.update_nil_of_named hnamed]

/-! ### Documents -/

/-- Values without binary64 numbers are read back. -/
theorem readsBack_of_isPlain {v : Value} (h : v.IsPlain) : ReadsBack v := by
  induction v using Value.partsInduction with
  | parts v ih =>
    have hparts : ∀ w ∈ v.parts, ReadsBack w := fun w hw => ih w hw (h.inside hw)
    cases v with
    | null => exact readsBack_null
    | bool b => exact readsBack_bool b
    | int n => exact readsBack_int n
    | float x => exact absurd rfl (h.here.1 x)
    | text s => exact readsBack_text s
    | list items => exact readsBack_list hparts
    | object fields =>
      exact readsBack_object (h.here.2 fields rfl) fun f hf => hparts f.2 (List.mem_map_of_mem hf)

/-- A document that was printed from a value without binary64 numbers is read back. -/
theorem read_of_prints {v : Value} (hv : v.IsPlain) (hdepth : v.depth ≤ maxDepth)
    {doc : List Char} (hdoc : Prints (documentPieces v) doc) : read doc = .ok v := by
  have hback := readsBack_of_isPlain hv
  obtain ⟨c, r, rfl, hopens⟩ := hback.opens hdoc
  have hroom : 2 * (c :: r).length ≤ 2 * (c :: r).length + 2 + 1 := by omega
  have hread := hback.reads hdoc hdepth hroom ends_nil
  rw [List.append_nil] at hread
  unfold read
  split
  · rename_i heq
    cases heq
    exact absurd rfl hopens.notSignature
  · rw [skipSpace_cons hopens.notSpace, hread]
    rfl

theorem return_notMem_document {v : Value} (hv : v.IsPlain) {doc : List Char}
    (hdoc : Prints (documentPieces v) doc) : '\r' ∉ doc :=
  (readsBack_of_isPlain hv).unbroken hdoc

end EntityMapping.Json
