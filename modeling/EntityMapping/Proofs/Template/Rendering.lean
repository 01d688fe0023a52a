import EntityMapping.CSharp.Templates
import EntityMapping.Proofs.Outcome
import EntityMapping.Template.Rendering

/-!
# Rendering nodes

What an output and a loop give when the variables they name are known.  A loop over a list renders
its body once for each item, in order; where the body makes no use of its turn, the text of the loop
is the texts for the items one after another (`Node.render_loop`).
-/

namespace EntityMapping.Template

variable {known : List Filter} {ctx : Context}

theorem Expr.eval_ofName {s : String} {d : Datum} (h : ctx.lookup s = some d) :
    (Expr.ofName s).eval known ctx = .ok d := by
  simp only [Expr.eval, Expr.operand, Expr.named, Expr.ofName, Context.find, h,
    List.getLast?_nil]
  rfl

theorem Expr.eval_partOf {s part : String} {d e : Datum} (h : ctx.lookup s = some d)
    (hp : d.part? part = some e) : (CSharp.partOf s part []).eval known ctx = .ok e := by
  simp only [Expr.eval, Expr.operand, Expr.named, CSharp.partOf, Context.find, h,
    List.getLast?_singleton, List.dropLast_singleton, List.foldlM_nil, Datum.part, bind,
    Except.bind, pure, Except.pure, hp]
  rfl

/-- The part of a variable after a filter. -/
theorem Expr.eval_partOf_filter {s part filter : String} {d e e' : Datum} {f : Filter}
    (h : ctx.lookup s = some d) (hp : d.part? part = some e)
    (hf : filterNamed? known filter = some f) (he : f.apply e = .ok e') :
    (CSharp.partOf s part [filter]).eval known ctx = .ok e' := by
  have hnamed : (CSharp.partOf s part [filter]).named ctx = .ok (.ok e) := by
    simp only [Expr.named, CSharp.partOf, Context.find, h, List.getLast?_singleton,
      List.dropLast_singleton, List.foldlM_nil, Datum.part, hp, bind, Except.bind, pure,
      Except.pure]
  have hfilter : applyFilter known e filter = .ok e' := by
    simp only [applyFilter, hf, he, Except.mapError]
  have hoperand : (CSharp.partOf s part [filter]).operand known ctx = .ok e' := by
    rw [Expr.operand, hnamed]
    simp [CSharp.partOf, hf, hfilter, bind, Except.bind]
    rfl
  rw [Expr.eval, hoperand]
  rfl

/-- Every item of a loop has one turn, in order. -/
theorem Datum.map_fst_turns (items : List Datum) : (Datum.turns items).map Prod.fst = items := by
  let next : List (Option Datum) := (items.map some ++ [none]).tail
  have hfst : (items.zip next).map Prod.fst = items :=
    List.map_fst_zip (by simp [next])
  have hsnd : ((none :: items.map some).zip (items.zip next)).map Prod.snd = items.zip next :=
    List.map_snd_zip (by simp [next])
  calc (Datum.turns items).map Prod.fst
      = ((((none :: items.map some).zip (items.zip next)).zipIdx.map Prod.fst).map Prod.snd).map
          Prod.fst := by
        simp only [Datum.turns, List.map_map]
        rfl
    _ = items := by rw [List.zipIdx_map_fst, hsnd, hfst]

theorem concatOver_eq_ok {render : Datum → Datum → Except RenderError String}
    {l : List (Datum × Datum)} {texts : List String}
    (h : List.Forall₂ (fun item s => ∀ turn, render item turn = .ok s) (l.map Prod.fst) texts) :
    concatOver render l = .ok (String.join texts) := by
  induction l generalizing texts with
  | nil =>
    cases h
    rfl
  | cons p r ih =>
    obtain ⟨d, turn⟩ := p
    cases h with
    | cons hd hr => simp only [concatOver, hd turn, ih hr, String.join_cons]

/-- The text of a loop whose body makes no use of its turn. -/
theorem Node.render_loop {x : String} {source : Expr} {body : List Node} {d : Datum}
    {items : List Datum} {texts : List String} (hd : source.eval known ctx = .ok d)
    (hitems : d.elements = .ok items)
    (hbody : List.Forall₂
      (fun item s => ∀ turn, renderAll known ((x, item) :: (turnWord, turn) :: ctx) body = .ok s)
      items texts) :
    (Node.loop x source body []).render known ctx = .ok (String.join texts) := by
  rw [Node.render, hd]
  simp only [hitems]
  cases hbody with
  | nil => rfl
  | cons h hr =>
    refine concatOver_eq_ok ?_
    rw [Datum.map_fst_turns]
    exact .cons h hr

/-- The text of a loop over what was made of some items, where the body says of each what another
reading of the item gives. -/
theorem Node.render_loop_mapM {ε α : Type} {x : String} {source : Expr} {body : List Node}
    {items : List α} {datumOf : α → Except ε Datum} {textOf : α → Except ε String}
    {data : List Datum} {texts : List String} (hd : source.eval known ctx = .ok (.list data))
    (hdata : items.mapM datumOf = .ok data) (htexts : items.mapM textOf = .ok texts)
    (hbody : ∀ a d s, datumOf a = .ok d → textOf a = .ok s → ∀ turn,
      renderAll known ((x, d) :: (turnWord, turn) :: ctx) body = .ok s) :
    (Node.loop x source body []).render known ctx = .ok (String.join texts) := by
  refine Node.render_loop hd rfl ?_
  rw [mapM_eq_ok] at hdata htexts
  clear hd
  induction hdata generalizing texts with
  | nil =>
    cases htexts
    exact .nil
  | cons hd _ ih =>
    cases htexts with
    | cons hs hrest => exact .cons (hbody _ _ _ hd hs) (ih hrest)

theorem renderAll_cons {n : Node} {r : List Node} {s t : String}
    (hn : n.render known ctx = .ok s) (hr : renderAll known ctx r = .ok t) :
    renderAll known ctx (n :: r) = .ok (s ++ t) := by
  rw [renderAll, hn]
  simp only [hr]

end EntityMapping.Template
