/-
Texts with references in braces. A reference is replaced by the value of its variable, or else by its
fallback, and both are inserted as they are, whatever they look like. The first reference that has
neither is the error of the whole text, and of the settings file whose platform the text is.
-/
import DocTabs.Proofs.Settings.Environment
import DocTabs.Proofs.Settings.Load

namespace DocTabs.Settings

open Disk Text

variable {env : Environment}

/-! ## Filling -/

namespace Piece

/-- The text that pieces stand for. -/
def fill (env : Environment) (pieces : List Piece) : Except String (List Char) :=
  return (← pieces.mapM (·.value env)).flatten

@[simp] theorem fill_nil : fill env [] = .ok [] := rfl

theorem fill_cons (p : Piece) (ps : List Piece) :
    fill env (p :: ps) = (p.value env).bind fun v => (fill env ps).map (v ++ ·) := by
  unfold fill
  rw [List.mapM_cons]
  cases p.value env with
  | error name => rfl
  | ok v => cases ps.mapM (·.value env) <;> rfl

theorem fill_char (c : Char) (ps : List Piece) :
    fill env (.char c :: ps) = (fill env ps).map (c :: ·) :=
  fill_cons _ ps

theorem fill_chars (cs : List Char) (ps : List Piece) :
    fill env (cs.map .char ++ ps) = (fill env ps).map (cs ++ ·) := by
  induction cs with
  | nil => cases h : fill env ps <;> simp [h, Except.map]
  | cons c cs ih =>
    rw [List.map_cons, List.cons_append, fill_char, ih]
    cases fill env ps <;> rfl

/-! ## Reading -/

@[simp] theorem ofText_nil : ofText [] = [] := by rw [ofText]

theorem ofText_cons {c : Char} (hc : c ≠ '$') (r : List Char) :
    ofText (c :: r) = .char c :: ofText r := by
  rw [ofText, if_neg hc]

theorem ofText_dollar (r : List Char) :
    ofText ('$' :: r) = (ofDollar r).1 :: ofText (ofDollar r).2 := by
  rw [ofText, if_pos rfl]

/-- A way to read texts in which only a `$` is special reads a text without one as it is. -/
theorem append_of_cons {f : List Char → List Piece}
    (hf : ∀ {c}, c ≠ '$' → ∀ r, f (c :: r) = .char c :: f r) {cs : List Char} (hcs : '$' ∉ cs)
    (r : List Char) : f (cs ++ r) = cs.map .char ++ f r := by
  induction cs with
  | nil => rfl
  | cons c cs ih =>
    obtain ⟨hc, hcs⟩ := not_or.1 (mt List.mem_cons.2 hcs)
    rw [List.cons_append, hf (Ne.symm hc), ih hcs]
    rfl

theorem ofText_append {cs : List Char} (hcs : '$' ∉ cs) (r : List Char) :
    ofText (cs ++ r) = cs.map .char ++ ofText r :=
  append_of_cons ofText_cons hcs r

/-- A reference in braces ends at the first closing brace. -/
theorem ofDollar_braces {inside : List Char} (h : '\x7d' ∉ inside) (r : List Char) :
    ofDollar ('\x7b' :: (inside ++ '\x7d' :: r)) = (braced inside, r) := by
  have hcut : cut? "\x7d" (inside ++ '\x7d' :: r) = some (inside, r) :=
    (cut?_char (c := '\x7d') rfl).2 ⟨h, rfl⟩
  rw [ofDollar, if_pos rfl, hcut]

end Piece

/-- A text with references is filled. -/
theorem expandReferences_of_contains {s : String} (h : contains "$\x7b" s.toList = true) :
    expandReferences env s = (Piece.fill env (Piece.ofText s.toList)).map String.ofList := by
  rw [expandReferences, if_pos h, Piece.fill]
  cases (Piece.ofText s.toList).mapM (·.value env) <;> rfl

/-- A text without references stays as it is. -/
theorem expandReferences_of_not_contains {s : String} (h : contains "$\x7b" s.toList = false) :
    expandReferences env s = .ok s := by
  rw [expandReferences, if_neg (by rw [h]; decide)]

/-! ## Templates -/

/-- A reference in braces, `$\x7bNAME\x7d` or `$\x7bNAME:-FALLBACK\x7d`. -/
structure Reference where
  name : String
  fallback : Option String := none
  ne_empty : name ≠ "" := by decide
  isName : name.toList.all Piece.isNameChar = true := by decide
  closed : ∀ f ∈ fallback, '\x7d' ∉ f.toList := by decide

namespace Reference

/-- What stands between the braces of a reference. -/
def inside (r : Reference) : String :=
  match r.fallback with
  | none => r.name
  | some f => r.name ++ ":-" ++ f

/-- A reference as it is written. -/
def written (r : Reference) : String :=
  "$\x7b" ++ r.inside ++ "\x7d"

/-- What the environment binds the variable to, or else the fallback. -/
def value? (env : Environment) (r : Reference) : Option String :=
  (env.bindings.lookup r.name).or r.fallback

end Reference

/-- A text without a `$`. -/
structure Literal where
  text : String
  noDollar : '$' ∉ text.toList := by decide

/-- A text with references: literal text, and references with literal text behind each. -/
structure Template where
  lead : Literal
  rest : List (Reference × Literal)

namespace Template

/-- The references of a template, in order. -/
def references (t : Template) : List Reference :=
  t.rest.map (·.1)

/-- A template as it is written. -/
def text (t : Template) : String :=
  t.lead.text ++ String.join (t.rest.map fun p => p.1.written ++ p.2.text)

/-- A template with its references replaced. -/
def filled (env : Environment) (t : Template) : String :=
  t.lead.text ++ String.join (t.rest.map fun p => (p.1.value? env).getD "" ++ p.2.text)

end Template

/-! ## References are read as written -/

theorem not_isNameChar : Piece.isNameChar ':' = false ∧ Piece.isNameChar '=' = false ∧
    Piece.isNameChar '\x7d' = false := by
  decide

namespace Reference

variable (r : Reference)

theorem not_mem_name {c : Char} (hc : Piece.isNameChar c = false) : c ∉ r.name.toList := by
  intro hmem
  rw [List.all_eq_true.1 r.isName c hmem] at hc
  cases hc

theorem closed_inside : '\x7d' ∉ r.inside.toList := by
  have hname := r.not_mem_name not_isNameChar.2.2
  unfold inside
  cases hf : r.fallback with
  | none => exact hname
  | some f =>
    have hfallback := r.closed f hf
    simp only [String.toList_append, List.mem_append, not_or]
    exact ⟨⟨hname, by decide⟩, hfallback⟩

/-- The name of a reference ends at the first colon and dash. -/
theorem braced_inside :
    Piece.braced r.inside.toList = .reference r.name.toList (r.fallback.map String.toList) := by
  have hcolon := r.not_mem_name not_isNameChar.1
  unfold inside
  cases r.fallback with
  | none =>
    have hcut : cut? ":-" r.name.toList = none := cut?_eq_none rfl hcolon
    simp only [Piece.braced, hcut]
    rfl
  | some f =>
    have hcut : cut? ":-" (r.name.toList ++ (":-".toList ++ f.toList)) =
        some (r.name.toList, f.toList) := cut?_append rfl hcolon f.toList
    obtain ⟨c, name, hname⟩ := List.exists_cons_of_ne_nil (mt String.toList_eq_nil_iff.1 r.ne_empty)
    rw [hname] at hcut
    simp only [String.toList_append, List.append_assoc, Piece.braced, hname, hcut]
    rfl

theorem ofText_written (s : List Char) :
    Piece.ofText (r.written.toList ++ s) =
      .reference r.name.toList (r.fallback.map String.toList) :: Piece.ofText s := by
  have hwritten : r.written.toList ++ s =
      '$' :: '\x7b' :: (r.inside.toList ++ '\x7d' :: s) := by
    simp [written]
  rw [hwritten, Piece.ofText_dollar, Piece.ofDollar_braces r.closed_inside, r.braced_inside]

/-- A name of name characters is one that a variable can have. -/
theorem get?_name : env.get? r.name = env.bindings.lookup r.name :=
  env.get?_of_name r.ne_empty (r.not_mem_name not_isNameChar.2.1)

theorem value_reference :
    (Piece.reference r.name.toList (r.fallback.map String.toList)).value env =
      match r.value? env with
      | some v => .ok v.toList
      | none => .error r.name := by
  simp only [Piece.value, value?, String.ofList_toList, r.get?_name]
  cases env.bindings.lookup r.name with
  | some v => rfl
  | none => cases r.fallback <;> rfl

end Reference

/-! ## Templates are filled -/

/-- Filling goes on behind a literal text. -/
theorem fill_literal (l : Literal) (s : List Char) :
    Piece.fill env (Piece.ofText (l.text.toList ++ s)) =
      (Piece.fill env (Piece.ofText s)).map (l.text.toList ++ ·) := by
  rw [Piece.ofText_append l.noDollar, Piece.fill_chars]

/-- Filling goes on behind a reference that stands for something. -/
theorem fill_written {r : Reference} {v : String} (h : r.value? env = some v) (s : List Char) :
    Piece.fill env (Piece.ofText (r.written.toList ++ s)) =
      (Piece.fill env (Piece.ofText s)).map (v.toList ++ ·) := by
  rw [r.ofText_written, Piece.fill_cons, r.value_reference, h]
  rfl

/-- Filling ends with a reference that stands for nothing. -/
theorem fill_missing {r : Reference} (h : r.value? env = none) (s : List Char) :
    Piece.fill env (Piece.ofText (r.written.toList ++ s)) = .error r.name := by
  rw [r.ofText_written, Piece.fill_cons, r.value_reference, h]
  rfl

/-- Filling goes on behind references that all stand for something. -/
theorem fill_rest {rest : List (Reference × Literal)} (h : ∀ p ∈ rest, p.1.value? env ≠ none)
    (s : List Char) :
    Piece.fill env (Piece.ofText
        ((String.join (rest.map fun p => p.1.written ++ p.2.text)).toList ++ s)) =
      (Piece.fill env (Piece.ofText s)).map
        ((String.join (rest.map fun p => (p.1.value? env).getD "" ++ p.2.text)).toList ++ ·) := by
  induction rest with
  | nil => cases hs : Piece.fill env (Piece.ofText s) <;> simp [hs, Except.map]
  | cons p rest ih =>
    obtain ⟨v, hv⟩ := Option.ne_none_iff_exists'.1 (h p (List.mem_cons_self ..))
    have htail := ih fun q hq => h q (List.mem_cons_of_mem _ hq)
    simp only [List.map_cons, String.join_cons, String.toList_append, List.append_assoc, hv,
      Option.getD_some]
    rw [fill_written hv, fill_literal, htail]
    cases Piece.fill env (Piece.ofText s) <;> simp [Except.map]

/-- A template is filled from its pieces, also where it has no reference. -/
theorem expandReferences_text (t : Template) :
    expandReferences env t.text =
      (Piece.fill env (Piece.ofText t.text.toList)).map String.ofList := by
  obtain ⟨lead, rest⟩ := t
  cases rest with
  | nil =>
    have htext : (Template.mk lead []).text = lead.text := by simp [Template.text]
    have hnone : contains "$\x7b" lead.text.toList = false := by
      rw [contains, cut?_eq_none rfl lead.noDollar]
      rfl
    have hfill : Piece.fill env (Piece.ofText (lead.text.toList ++ [])) = _ := fill_literal lead []
    rw [List.append_nil, Piece.ofText_nil, Piece.fill_nil] at hfill
    rw [htext, expandReferences_of_not_contains hnone, hfill]
    simp [Except.map]
  | cons p rest =>
    refine expandReferences_of_contains ?_
    have htext : (Template.mk lead (p :: rest)).text.toList = lead.text.toList ++ ("$\x7b".toList ++
        (p.1.inside.toList ++ ("\x7d".toList ++ (p.2.text.toList ++
          (String.join (rest.map fun p => p.1.written ++ p.2.text)).toList)))) := by
      simp [Template.text, Reference.written]
    rw [htext, contains, cut?_append rfl lead.noDollar]
    rfl

theorem expandReferences_filled {t : Template} (h : ∀ r ∈ t.references, r.value? env ≠ none) :
    expandReferences env t.text = .ok (t.filled env) := by
  have hrest : ∀ p ∈ t.rest, p.1.value? env ≠ none := fun p hp => h p.1 (List.mem_map_of_mem hp)
  have hfill := fill_rest hrest []
  rw [List.append_nil, Piece.ofText_nil, Piece.fill_nil] at hfill
  rw [expandReferences_text, Template.text, String.toList_append, fill_literal, hfill]
  simp only [Except.map, List.append_nil, ← String.toList_append, String.ofList_toList]
  rfl

theorem expandReferences_missing {t : Template} {before after : List Reference} {r : Reference}
    (ht : t.references = before ++ r :: after) (hbefore : ∀ q ∈ before, q.value? env ≠ none)
    (hr : r.value? env = none) : expandReferences env t.text = .error r.name := by
  obtain ⟨lead, rest⟩ := t
  obtain ⟨passed, tail, rfl, hpassed, htail⟩ := List.map_eq_append_iff.1 ht
  obtain ⟨p, tail, rfl, rfl, -⟩ := List.map_eq_cons_iff.1 htail
  have hrest : ∀ q ∈ passed, q.1.value? env ≠ none := fun q hq =>
    hbefore q.1 (hpassed ▸ List.mem_map_of_mem hq)
  rw [expandReferences_text, Template.text, String.toList_append, fill_literal, List.map_append,
    String.join_append, String.toList_append, fill_rest hrest, List.map_cons, String.join_cons,
    String.toList_append, String.toList_append, List.append_assoc, fill_missing hr]
  rfl

/-- Where every reference of a template stands for something, the text is expanded to the template with
its references replaced. Otherwise the first reference that stands for nothing is the error. A settings
file whose platform is the text takes over the one or the other; the error names its key. -/
theorem expandReferences_template (env : Environment) (t : Template) :
    ((∀ r ∈ t.references, r.value? env ≠ none) →
      expandReferences env t.text = .ok (t.filled env) ∧
      ∀ d file f, HoldsFile d file f → f.preferred = some t.text →
        read d env file = check (ofFile file f (t.filled env))) ∧
    ∀ before r after, t.references = before ++ r :: after → (∀ q ∈ before, q.value? env ≠ none) →
      r.value? env = none →
      expandReferences env t.text = .error r.name ∧
      ∀ d file f, HoldsFile d file f → f.preferred = some t.text →
        read d env file = .error (.unset r.name) ∧
        ∀ mistake, (LoadError.unset r.name).message mistake =
          "Environment variable error in tabs.default_platform: $\x7b" ++ r.name ++ "\x7d not set" := by
  constructor
  · intro h
    have hfilled := expandReferences_filled h
    refine ⟨hfilled, fun d file f hf hp => ?_⟩
    rw [read_of_holds hf, hp, Option.getD_some, hfilled]
  · intro before r after ht hbefore hr
    have hmissing := expandReferences_missing ht hbefore hr
    refine ⟨hmissing, fun d file f hf hp => ⟨?_, fun _ => rfl⟩⟩
    rw [read_of_holds hf, hp, Option.getD_some, hmissing]

/-- A platform that refers to two variables, and a fallback that looks like a reference. -/
def edition : Template where
  lead := { text := "App " }
  rest :=
    [({ name := "EDITION" }, { text := " (" }), ({ name := "TIER", fallback := some "$EDITION $\x7b" },
      { text := ")" })]

/-- A working directory with a settings file that sets this platform. -/
def editionProject : Disk where
  nodes := [(["ptabs.toml"], .file { content :=
    "[tabs]\ndefault_platform = \"App $\x7bEDITION\x7d ($\x7bTIER:-$EDITION $\x7b\x7d)\"\n".toUTF8 })]

theorem editionProject_holds :
    HoldsFile editionProject ⟨"ptabs.toml"⟩ { preferred := some edition.text } := by
  have hl : editionProject.locate ⟨"ptabs.toml"⟩ = .ok ["ptabs.toml"] := by
    rw [locate_eq, if_neg (by decide), if_neg (by decide)]
    rfl
  exact holdsFile_of_toUTF8 hl rfl (by decide +kernel)

/-- The value of one variable looks like a reference to the other. Without it the load fails. -/
theorem expandReferences_template_edition :
    expandReferences ⟨[("EDITION", "$\x7bTIER\x7d")]⟩ edition.text =
      .ok "App $\x7bTIER\x7d ($EDITION $\x7b)" ∧
    expandReferences ⟨[("TIER", "")]⟩ edition.text = .error "EDITION" ∧
    read editionProject ⟨[("TIER", "")]⟩ ⟨"ptabs.toml"⟩ = .error (.unset "EDITION") := by
  have hset := (expandReferences_template ⟨[("EDITION", "$\x7bTIER\x7d")]⟩ edition).1 (by decide)
  have hunset := (expandReferences_template ⟨[("TIER", "")]⟩ edition).2 [] _ _ rfl nofun rfl
  exact ⟨hset.1, hunset.1, (hunset.2 _ _ _ editionProject_holds rfl).1⟩

end DocTabs.Settings
