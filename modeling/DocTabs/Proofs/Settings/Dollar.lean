/-
Bare dollars. In a text without `$\x7b` every `$` stays as it is, but one reference in braces makes
references of `$NAME`, too, and halves `$$`. So the texts whose dollars outside braces stay literal in
every environment are those without `$\x7b`, and those in which no such `$` stands before a name
character or another `$`.
-/
import DocTabs.Proofs.Settings.Template

namespace DocTabs.Settings

open Text

namespace Piece

variable {env : Environment} {c : Char} {r s t inside rest w : List Char}

/-! ## References in braces alone -/

/-- The text in braces at the head of a text, and the text behind the braces. -/
def braces? : List Char → Option (List Char × List Char)
  | [] => none
  | c :: r => if c = '\x7b' then cut? "\x7d" r else none

theorem braces?_length (h : braces? r = some (inside, rest)) : rest.length < r.length := by
  cases r with
  | nil => cases h
  | cons c r =>
    rw [braces?] at h
    split at h
    · obtain ⟨-, rfl⟩ := (cut?_char (c := '\x7d') rfl).1 h
      simp only [List.length_cons, List.length_append]
      omega
    · cases h

/-- The pieces of a text in which references in braces count alone: every other `$` is a character. -/
def bracesOnly : List Char → List Piece
  | [] => []
  | c :: r =>
    match _h : if c = '$' then braces? r else none with
    | some (inside, rest) => braced inside :: bracesOnly rest
    | none => .char c :: bracesOnly r
termination_by s => s.length
decreasing_by
  · split at _h
    · exact Nat.lt_succ_of_lt (braces?_length _h)
    · cases _h
  · simp

@[simp] theorem bracesOnly_nil : bracesOnly [] = [] := by rw [bracesOnly]

theorem bracesOnly_cons (hc : c ≠ '$') (r : List Char) :
    bracesOnly (c :: r) = .char c :: bracesOnly r := by
  rw [bracesOnly]
  split
  · rename_i heq; rw [if_neg hc] at heq; cases heq
  · rfl

theorem bracesOnly_append {cs : List Char} (hcs : '$' ∉ cs) (r : List Char) :
    bracesOnly (cs ++ r) = cs.map .char ++ bracesOnly r :=
  append_of_cons bracesOnly_cons hcs r

theorem bracesOnly_braces (h : braces? r = some (inside, rest)) :
    bracesOnly ('$' :: r) = braced inside :: bracesOnly rest := by
  rw [bracesOnly]
  split
  · rename_i heq
    rw [if_pos rfl, h] at heq
    obtain ⟨rfl, rfl⟩ := Prod.mk.inj (Option.some.inj heq)
    rfl
  · rename_i heq; rw [if_pos rfl, h] at heq; cases heq

theorem bracesOnly_bare (h : braces? r = none) :
    bracesOnly ('$' :: r) = .char '$' :: bracesOnly r := by
  rw [bracesOnly]
  split
  · rename_i heq; rw [if_pos rfl, h] at heq; cases heq
  · rfl

theorem braced_eq (inside : List Char) : ∃ name fallback, braced inside = .reference name fallback := by
  unfold braced
  split
  · exact ⟨_, _, rfl⟩
  · exact ⟨_, _, rfl⟩

theorem braces?_of_ne (hc : c ≠ '\x7b') (r : List Char) : braces? (c :: r) = none :=
  if_neg hc

theorem braces?_name (hc : isNameChar c = true) (r : List Char) : braces? (c :: r) = none :=
  braces?_of_ne (by rintro rfl; exact absurd hc (by decide)) r

theorem bracesOnly_double (r : List Char) :
    bracesOnly ('$' :: '$' :: r) = .char '$' :: bracesOnly ('$' :: r) :=
  bracesOnly_bare (braces?_of_ne (by decide) r)

/-! ## What a dollar starts -/

/-- Whether a character leaves the `$` before it as it is. -/
def isQuiet (c : Char) : Bool :=
  !isNameChar c && c != '$'

theorem ofText_braces (h : braces? r = some (inside, rest)) :
    ofText ('$' :: r) = braced inside :: ofText rest := by
  cases r with
  | nil => cases h
  | cons c r =>
    rw [braces?] at h
    split at h
    · rename_i hc
      rw [ofText_dollar, ofDollar, if_pos hc, h]
    · cases h

theorem ofText_name (hc : isNameChar c = true) (r : List Char) :
    ofText ('$' :: c :: r) =
      .reference (c :: r.takeWhile isNameChar) none :: ofText (r.dropWhile isNameChar) := by
  have hbrace : c ≠ '\x7b' := by rintro rfl; exact absurd hc (by decide)
  rw [ofText_dollar, ofDollar, if_neg hbrace, if_pos hc]

theorem ofText_double (r : List Char) : ofText ('$' :: '$' :: r) = .char '$' :: ofText r := by
  rw [ofText_dollar, ofDollar, if_neg (by decide), if_neg (by decide), if_pos rfl]

theorem ofText_lone (hr : braces? r = none) (hq : ∀ c ∈ r.head?, isQuiet c = true) :
    ofText ('$' :: r) = .char '$' :: ofText r := by
  rw [ofText_dollar]
  cases r with
  | nil => rfl
  | cons c r =>
    have hc := hq c rfl
    simp only [isQuiet, Bool.and_eq_true, Bool.not_eq_true', bne_iff_ne] at hc
    rw [ofDollar]
    by_cases hbrace : c = '\x7b'
    · rw [braces?, if_pos hbrace] at hr
      rw [if_pos hbrace, hr]
    · rw [if_neg hbrace, if_neg (by rw [hc.1]; decide), if_neg hc.2]

/-- Texts by what stands at their head: a character that is no `$`, or one of the four things that a `$`
can start. -/
@[elab_as_elim]
theorem dollar_induction {P : List Char → Prop} (nil : P [])
    (char : ∀ {c r}, c ≠ '$' → P r → P (c :: r))
    (braces : ∀ {r inside rest}, braces? r = some (inside, rest) → P rest → P ('$' :: r))
    (name : ∀ {c r}, isNameChar c = true → P ('$' :: c :: r))
    (double : ∀ {r}, P r → P ('$' :: '$' :: r))
    (lone : ∀ {r}, braces? r = none → (∀ c ∈ r.head?, isQuiet c = true) → P r → P ('$' :: r))
    (s : List Char) : P s := by
  induction hn : s.length using Nat.strong_induction_on generalizing s with
  | _ n ih =>
    subst hn
    rcases s with _ | ⟨c, r⟩
    · exact nil
    · by_cases hc : c = '$'
      · subst hc
        cases hr : braces? r with
        | some p => exact braces hr (ih _ (Nat.lt_succ_of_lt (braces?_length hr)) _ rfl)
        | none =>
          rcases r with _ | ⟨d, r⟩
          · exact lone hr nofun nil
          · by_cases hname : isNameChar d = true
            · exact name hname
            · by_cases hd : d = '$'
              · subst hd
                exact double (ih _ (Nat.lt_succ_of_lt (Nat.lt_succ_self _)) _ rfl)
              · have hquiet : isQuiet d = true := by simp [isQuiet, hname, hd]
                exact lone hr (fun e he => by cases he; exact hquiet) (ih _ (by simp) _ rfl)
      · exact char hc (ih _ (by simp) _ rfl)

/-! ## Texts that keep their dollars -/

/-- Whether a piece leaves the `$` before it as it is. -/
def keepsDollar : Piece → Bool
  | .char c => isQuiet c
  | .reference _ _ => false

/-- No `$` outside references in braces stands before a name character, another `$`, or a reference. -/
def Quiet (s : List Char) : Prop :=
  (bracesOnly s).IsChain fun p q => p = .char '$' → q.keepsDollar = true

/-- A piece that is no `$` can be followed by any piece. -/
theorem isChain_cons {p : Piece} (hp : p ≠ .char '$') {ps : List Piece} :
    (p :: ps).IsChain (fun p q => p = .char '$' → q.keepsDollar = true) ↔
      ps.IsChain fun p q => p = .char '$' → q.keepsDollar = true := by
  cases ps with
  | nil => simp
  | cons q ps =>
    rw [List.isChain_cons_cons]
    exact ⟨And.right, fun h => ⟨fun he => absurd he hp, h⟩⟩

theorem quiet_nil : Quiet [] := by
  rw [Quiet, bracesOnly_nil]
  exact .nil

theorem quiet_cons (hc : c ≠ '$') : Quiet (c :: r) ↔ Quiet r := by
  rw [Quiet, bracesOnly_cons hc, isChain_cons fun he => hc (Piece.char.inj he), Quiet]

theorem quiet_braces (h : braces? r = some (inside, rest)) : Quiet ('$' :: r) ↔ Quiet rest := by
  obtain ⟨name, fallback, hb⟩ := braced_eq inside
  rw [Quiet, bracesOnly_braces h, hb, isChain_cons Piece.noConfusion, Quiet]

theorem bracesOnly_head (c : Char) (r : List Char) :
    ∃ p ps, bracesOnly (c :: r) = p :: ps ∧ p.keepsDollar = isQuiet c := by
  by_cases hc : c = '$'
  · subst hc
    cases hr : braces? r with
    | some p =>
      obtain ⟨name, fallback, hb⟩ := braced_eq p.1
      exact ⟨_, _, bracesOnly_braces hr, by rw [hb]; rfl⟩
    | none => exact ⟨_, _, bracesOnly_bare hr, rfl⟩
  · exact ⟨_, _, bracesOnly_cons hc r, rfl⟩

theorem quiet_bare (h : braces? r = none) :
    Quiet ('$' :: r) ↔ (∀ c ∈ r.head?, isQuiet c = true) ∧ Quiet r := by
  rw [Quiet, bracesOnly_bare h]
  cases r with
  | nil => simp [Quiet]
  | cons c r =>
    obtain ⟨p, ps, hps, hp⟩ := bracesOnly_head c r
    rw [Quiet, hps, List.isChain_cons_cons, hp]
    simp

/-- Where the dollars are quiet, both ways to read a text agree. -/
theorem ofText_of_quiet (h : Quiet s) : ofText s = bracesOnly s := by
  induction s using dollar_induction with
  | nil => rw [ofText_nil, bracesOnly_nil]
  | char hc ih => rw [ofText_cons hc, bracesOnly_cons hc, ih ((quiet_cons hc).1 h)]
  | braces hr ih => rw [ofText_braces hr, bracesOnly_braces hr, ih ((quiet_braces hr).1 h)]
  | name hname =>
    have hloud := ((quiet_bare (braces?_name hname _)).1 h).1 _ rfl
    simp [isQuiet, hname] at hloud
  | double _ =>
    have hloud := ((quiet_bare (braces?_of_ne (by decide) _)).1 h).1 '$' rfl
    cases hloud
  | lone hr hq ih => rw [ofText_lone hr hq, bracesOnly_bare hr, ih ((quiet_bare hr).1 h).2]

/-! ## Texts that do not -/

/-- The variables that pieces refer to have the value `x`, and no variable has another value. -/
structure Marks (env : Environment) (ps : List Piece) : Prop where
  marked : ∀ {name fallback}, .reference name fallback ∈ ps →
    env.get? (String.ofList name) = some "x"
  only : ∀ {name v}, env.get? name = some v → v = "x"

theorem Marks.tail {p : Piece} {ps : List Piece} (h : Marks env (p :: ps)) : Marks env ps :=
  ⟨fun hmem => h.marked (List.mem_cons_of_mem p hmem), h.only⟩

theorem value_of_get? {name : List Char} {v : String} (h : env.get? (String.ofList name) = some v)
    (fallback : Option (List Char)) : (reference name fallback).value env = .ok v.toList := by
  simp only [value, h]

theorem value_of_unset {name : List Char} (h : env.get? (String.ofList name) = none) :
    (reference name none).value env = .error (String.ofList name) := by
  simp only [value, h]

theorem fill_cons_eq_ok {p : Piece} {ps : List Piece} :
    fill env (p :: ps) = .ok w ↔ ∃ v u, p.value env = .ok v ∧ fill env ps = .ok u ∧ w = v ++ u := by
  rw [fill_cons]
  cases p.value env with
  | error name => simp [Except.bind]
  | ok v =>
    cases fill env ps with
    | error name => simp [Except.bind, Except.map]
    | ok u => simp [Except.bind, Except.map, eq_comm]

theorem fill_char_eq_ok {ps : List Piece} :
    fill env (.char c :: ps) = .ok w ↔ ∃ u, fill env ps = .ok u ∧ w = c :: u := by
  rw [fill_cons_eq_ok]
  simp [value]

theorem fill_char_eq_cons {ps : List Piece} :
    fill env (.char c :: ps) = .ok (c :: w) ↔ fill env ps = .ok w := by
  rw [fill_char_eq_ok]
  simp

/-- A reference without a fallback begins with the mark, if it stands for anything. -/
theorem Marks.head_reference {ps qs : List Piece} {name : List Char} (h : Marks env ps)
    (hw : fill env (.reference name none :: qs) = .ok w) : w.head? = some 'x' := by
  obtain ⟨v, u, hv, -, rfl⟩ := fill_cons_eq_ok.1 hw
  cases hget : env.get? (String.ofList name) with
  | none => rw [value_of_unset hget] at hv; cases hv
  | some bound =>
    rw [value_of_get? hget, h.only hget] at hv
    cases hv
    rfl

theorem Marks.head_braced {ps qs : List Piece} (h : Marks env (braced inside :: ps))
    (hw : fill env (braced inside :: qs) = .ok w) : w.head? = some 'x' := by
  obtain ⟨name, fallback, hb⟩ := braced_eq inside
  rw [hb] at h hw
  obtain ⟨v, u, hv, -, rfl⟩ := fill_cons_eq_ok.1 hw
  rw [value_of_get? (h.marked (List.mem_cons_self ..))] at hv
  cases hv
  rfl

/-- A `$` that is read by itself is kept, and one that starts a reference in braces becomes the mark. -/
theorem Marks.head_dollar (h : Marks env (bracesOnly ('$' :: c :: r)))
    (hw : fill env (bracesOnly ('$' :: c :: r)) = .ok w) :
    w.head? = some '$' ∨ w.head? = some 'x' ∧ c = '\x7b' := by
  cases hr : braces? (c :: r) with
  | none =>
    rw [bracesOnly_bare hr] at hw
    obtain ⟨v, -, rfl⟩ := fill_char_eq_ok.1 hw
    exact .inl rfl
  | some p =>
    rw [bracesOnly_braces hr] at h hw
    refine .inr ⟨h.head_braced hw, ?_⟩
    by_contra hne
    rw [braces?_of_ne hne] at hr
    cases hr

/-- Marked pieces stand for some text. -/
theorem Marks.fill {ps : List Piece} (h : Marks env ps) : ∃ w, fill env ps = .ok w := by
  induction ps with
  | nil => exact ⟨_, fill_nil⟩
  | cons p ps ih =>
    obtain ⟨u, hu⟩ := ih h.tail
    have hp : ∃ v, p.value env = .ok v := by
      cases p with
      | char c => exact ⟨_, rfl⟩
      | reference name fallback => exact ⟨_, value_of_get? (h.marked (List.mem_cons_self ..)) fallback⟩
    obtain ⟨v, hv⟩ := hp
    exact ⟨_, fill_cons_eq_ok.2 ⟨v, u, hv, hu, rfl⟩⟩

theorem dollars_cons (k : Nat) (w : List Char) :
    List.replicate k '$' ++ '$' :: w = List.replicate (k + 1) '$' ++ w := by
  rw [List.replicate_succ', List.append_assoc]
  rfl

theorem head?_dollars (k : Nat) (w : List Char) :
    (List.replicate k '$' ++ w).head? = some '$' ∨ (List.replicate k '$' ++ w).head? = w.head? := by
  cases k with
  | zero => exact .inr rfl
  | succ k => exact .inl rfl

/-- Behind `$$` the two ways to read a text never meet again: one has passed both dollars and the other
only one, and from then on the other writes at least one `$` more or another character. -/
theorem fill_double_ne (k : Nat) (h : Marks env (bracesOnly ('$' :: s)))
    (hw : fill env (bracesOnly ('$' :: s)) = .ok w) :
    fill env (ofText s) ≠ .ok (List.replicate k '$' ++ w) := by
  intro he
  induction s using dollar_induction generalizing k w with
  | nil =>
    rw [bracesOnly_bare rfl, bracesOnly_nil] at hw
    cases hw
    rw [ofText_nil, fill_nil] at he
    simpa using Except.ok.inj he
  | @char c r hc _ =>
    rw [ofText_cons hc] at he
    obtain ⟨u, -, hu⟩ := fill_char_eq_ok.1 he
    have hhead : (List.replicate k '$' ++ w).head? = some c := by rw [hu]; rfl
    rcases head?_dollars k w with hd | hd
    · rw [hhead] at hd
      exact hc (Option.some.inj hd)
    · rw [hhead] at hd
      rcases h.head_dollar hw with hdollar | ⟨hmark, rfl⟩
      · rw [hdollar] at hd
        exact hc (Option.some.inj hd)
      · rw [hmark] at hd
        exact absurd hd (by decide)
  | @braces r inside rest hr _ =>
    rw [bracesOnly_double] at h hw
    obtain ⟨u, -, rfl⟩ := fill_char_eq_ok.1 hw
    have hmarks := h.tail
    rw [bracesOnly_braces hr] at hmarks
    rw [ofText_braces hr] at he
    have hhead := hmarks.head_braced he
    rw [dollars_cons] at hhead
    exact absurd hhead (by simp [List.replicate_succ])
  | @name c r hname =>
    rw [bracesOnly_double] at hw
    obtain ⟨u, -, rfl⟩ := fill_char_eq_ok.1 hw
    rw [ofText_name hname] at he
    have hhead := h.head_reference he
    rw [dollars_cons] at hhead
    exact absurd hhead (by simp [List.replicate_succ])
  | @double r ih =>
    rw [bracesOnly_double, bracesOnly_double] at h hw
    obtain ⟨u, hu, rfl⟩ := fill_char_eq_ok.1 hw
    obtain ⟨v, hv, rfl⟩ := fill_char_eq_ok.1 hu
    rw [ofText_double, dollars_cons, List.replicate_succ, List.cons_append] at he
    have hu' := fill_char_eq_cons.1 he
    rw [dollars_cons] at hu'
    exact ih (k + 1) h.tail.tail hv hu'
  | @lone r hr hq ih =>
    rw [bracesOnly_double] at h hw
    obtain ⟨u, hu, rfl⟩ := fill_char_eq_ok.1 hw
    rw [ofText_lone hr hq, dollars_cons, List.replicate_succ, List.cons_append] at he
    exact ih k h.tail hu (fill_char_eq_cons.1 he)

/-- Where the variables have their marks, both ways to read a text agree only if its dollars are quiet. -/
theorem quiet_of_fill_eq (h : Marks env (bracesOnly s))
    (he : fill env (ofText s) = fill env (bracesOnly s)) : Quiet s := by
  obtain ⟨w, hw⟩ := h.fill
  rw [hw] at he
  induction s using dollar_induction generalizing w with
  | nil => exact quiet_nil
  | char hc ih =>
    rw [bracesOnly_cons hc] at h hw
    rw [ofText_cons hc] at he
    obtain ⟨u, hu, rfl⟩ := fill_char_eq_ok.1 hw
    exact (quiet_cons hc).2 (ih h.tail _ (fill_char_eq_cons.1 he) hu)
  | braces hr ih =>
    rw [bracesOnly_braces hr] at h hw
    rw [ofText_braces hr] at he
    obtain ⟨v, u, hv, hu, rfl⟩ := fill_cons_eq_ok.1 hw
    obtain ⟨v', u', hv', hu', heq⟩ := fill_cons_eq_ok.1 he
    obtain rfl := Except.ok.inj (hv.symm.trans hv')
    obtain rfl := List.append_cancel_left heq
    exact (quiet_braces hr).2 (ih h.tail _ hu' hu)
  | @name c r hname =>
    rw [bracesOnly_bare (braces?_name hname r)] at hw
    obtain ⟨u, -, rfl⟩ := fill_char_eq_ok.1 hw
    rw [ofText_name hname] at he
    exact absurd (h.head_reference he) (by simp)
  | @double r _ =>
    rw [bracesOnly_double] at h hw
    obtain ⟨u, hu, rfl⟩ := fill_char_eq_ok.1 hw
    rw [ofText_double] at he
    exact absurd (fill_char_eq_cons.1 he) (fill_double_ne 0 h.tail hu)
  | lone hr hq ih =>
    rw [bracesOnly_bare hr] at h hw
    rw [ofText_lone hr hq] at he
    obtain ⟨u, hu, rfl⟩ := fill_char_eq_ok.1 hw
    exact (quiet_bare hr).2 ⟨hq, ih h.tail _ (fill_char_eq_cons.1 he) hu⟩

/-! ## Environments that mark all references -/

/-- The environment that gives the mark to every variable that pieces refer to. -/
def marking (ps : List Piece) : Environment where
  bindings := ps.filterMap fun
    | .char _ => none
    | .reference name _ => some (String.ofList name, "x")

theorem marks_marking {ps : List Piece} (h : ∀ name fallback, .reference name fallback ∈ ps →
    name ≠ [] ∧ '=' ∉ name) : Marks (marking ps) ps := by
  have hvalue : ∀ b ∈ (marking ps).bindings, b.2 = "x" := by
    intro b hb
    obtain ⟨p, -, hp⟩ := List.mem_filterMap.1 hb
    cases p with
    | char c => cases hp
    | reference n f => rw [← Option.some.inj hp]
  have honly : ∀ {name v}, (marking ps).get? name = some v → v = "x" := by
    intro name v hget
    obtain ⟨b, hb, rfl | ⟨inside, he⟩⟩ := Environment.exists_of_get? hget
    · exact hvalue _ hb
    · rw [hvalue b hb] at he
      have hequals : '=' ∈ "x".toList := by rw [he]; simp
      exact absurd hequals (by decide)
  refine ⟨fun {name fallback} hmem => ?_, honly⟩
  · obtain ⟨hne, hequals⟩ := h name fallback hmem
    have hbound : (String.ofList name, "x") ∈ (marking ps).bindings :=
      List.mem_filterMap.2 ⟨_, hmem, rfl⟩
    cases hget : (marking ps).get? (String.ofList name) with
    | none =>
      rw [Environment.get?_of_name _ (by simpa using hne) (by simpa using hequals)] at hget
      have hno := List.lookup_eq_none_iff.1 hget _ hbound
      simp at hno
    | some v => rw [honly hget]

/-- A text without braces behind a `$` stays as it is. -/
theorem fill_bracesOnly_of_not_contains (h : contains "$\x7b" s = false) :
    fill env (bracesOnly s) = .ok s := by
  have hnone : first (after? "$\x7b") s = none := by simpa [contains, cut?] using h
  clear h
  induction s with
  | nil => rw [bracesOnly_nil, fill_nil]
  | cons c r ih =>
    have htail : first (after? "$\x7b") r = none :=
      first_eq_none.2 fun u v huv => first_eq_none.1 hnone (c :: u) v (by rw [huv]; rfl)
    have hpieces : bracesOnly (c :: r) = .char c :: bracesOnly r := by
      by_cases hc : c = '$'
      · subst hc
        refine bracesOnly_bare ?_
        rcases r with _ | ⟨d, r⟩
        · rfl
        · refine braces?_of_ne ?_ r
          rintro rfl
          have hhead := first_eq_none.1 hnone [] _ rfl
          cases hhead
      · exact bracesOnly_cons hc r
    rw [hpieces, fill_char, ih htail]
    rfl

end Piece

/-! ## Bare dollars -/

/-- The text with its references in braces replaced, and every other `$` kept. -/
def expandBraces (env : Environment) (s : String) : Except String String :=
  (Piece.fill env (Piece.bracesOnly s.toList)).map String.ofList

/-- In a text without `$\x7b` every `$` is kept, and in one with `$\x7b` every `$` outside references in
braces if none of them stands before a name character or another `$`. In no other text whose references
are to variables that can be set are they kept in every environment. -/
theorem expandReferences_bare (s : String) :
    (contains "$\x7b" s.toList = false ∨ Piece.Quiet s.toList →
      ∀ env, expandReferences env s = expandBraces env s) ∧
    ((∀ name fallback, .reference name fallback ∈ Piece.bracesOnly s.toList →
        name ≠ [] ∧ '=' ∉ name) →
      (∀ env, expandReferences env s = expandBraces env s) →
      contains "$\x7b" s.toList = false ∨ Piece.Quiet s.toList) := by
  constructor
  · intro h env
    cases hcontains : contains "$\x7b" s.toList with
    | false =>
      rw [expandReferences_of_not_contains hcontains, expandBraces,
        Piece.fill_bracesOnly_of_not_contains hcontains]
      simp [Except.map]
    | true =>
      have hquiet := h.resolve_left (by rw [hcontains]; decide)
      rw [expandReferences_of_contains hcontains, Piece.ofText_of_quiet hquiet, expandBraces]
  · intro hset hall
    cases hcontains : contains "$\x7b" s.toList with
    | false => exact .inl rfl
    | true =>
      have hmarks := Piece.marks_marking hset
      have he := hall (Piece.marking (Piece.bracesOnly s.toList))
      rw [expandReferences_of_contains hcontains, expandBraces] at he
      obtain ⟨w, hw⟩ := hmarks.fill
      refine .inr (Piece.quiet_of_fill_eq hmarks ?_)
      rw [hw] at he ⊢
      cases hfill : Piece.fill (Piece.marking (Piece.bracesOnly s.toList)) (Piece.ofText s.toList) with
      | error name => rw [hfill] at he; cases he
      | ok u =>
        rw [hfill] at he
        rw [String.ofList_inj.1 (Except.ok.inj he)]

/-- A reference with a fallback. -/
def bar : Reference where
  name := "BAR"
  fallback := some "x"

theorem braces?_bar : Piece.braces? "\x7bBAR:-x\x7d".toList = some ("BAR:-x".toList, []) :=
  (cut?_char (c := '\x7d') rfl).2 ⟨by decide, rfl⟩

theorem braced_bar : Piece.braced "BAR:-x".toList = .reference "BAR".toList (some "x".toList) :=
  bar.braced_inside

theorem bracesOnly_bar : Piece.bracesOnly ('$' :: "\x7bBAR:-x\x7d".toList) =
    [.reference "BAR".toList (some "x".toList)] := by
  rw [Piece.bracesOnly_braces braces?_bar, Piece.bracesOnly_nil, braced_bar]

theorem value_bar : Piece.value {} (.reference "BAR".toList (some "x".toList)) = .ok "x".toList :=
  bar.value_reference

/-- A lone dollar is kept beside a reference. One in front of a name is not, in some environment. -/
theorem expandReferences_bare_foo :
    expandReferences {} "$ $\x7bBAR:-x\x7d" = .ok "$ x" ∧
    ¬ ∀ env, expandReferences env "$Foo $\x7bBAR:-x\x7d" = expandBraces env "$Foo $\x7bBAR:-x\x7d" := by
  have hlone : "$ $\x7bBAR:-x\x7d".toList = '$' :: ' ' :: '$' :: "\x7bBAR:-x\x7d".toList := by decide
  have hname : "$Foo $\x7bBAR:-x\x7d".toList =
      '$' :: ("Foo ".toList ++ '$' :: "\x7bBAR:-x\x7d".toList) := by decide
  constructor
  · have hquiet : Piece.Quiet ('$' :: ' ' :: '$' :: "\x7bBAR:-x\x7d".toList) := by
      refine (Piece.quiet_bare rfl).2 ⟨fun c hc => by cases hc; rfl, (Piece.quiet_cons (by decide)).2 ?_⟩
      exact (Piece.quiet_braces braces?_bar).2 Piece.quiet_nil
    rw [(expandReferences_bare "$ $\x7bBAR:-x\x7d").1 (.inr (by rw [hlone]; exact hquiet)) {}]
    rw [expandBraces, hlone, Piece.bracesOnly_bare rfl, Piece.bracesOnly_cons (by decide), bracesOnly_bar,
      Piece.fill_char, Piece.fill_char, Piece.fill_cons, value_bar]
    rfl
  · have hpieces : Piece.bracesOnly "$Foo $\x7bBAR:-x\x7d".toList =
        .char '$' :: ("Foo ".toList.map .char ++ [.reference "BAR".toList (some "x".toList)]) := by
      rw [hname, Piece.bracesOnly_bare rfl, Piece.bracesOnly_append (by decide), bracesOnly_bar]
    have hset : ∀ name fallback,
        .reference name fallback ∈ Piece.bracesOnly "$Foo $\x7bBAR:-x\x7d".toList →
        name ≠ [] ∧ '=' ∉ name := by
      rw [hpieces]
      intro name fallback hmem
      obtain ⟨rfl, -⟩ : name = "BAR".toList ∧ fallback = some "x".toList := by simpa using hmem
      decide
    intro hall
    rcases (expandReferences_bare "$Foo $\x7bBAR:-x\x7d").2 hset hall with hnone | hquiet
    · exact absurd hnone (by decide)
    · rw [hname] at hquiet
      have hloud := ((Piece.quiet_bare rfl).1 hquiet).1 'F' rfl
      exact absurd hloud (by decide)

/-- A bare dollar beside a reference is not always kept: a name behind it is looked up, which fails the
whole text, and two dollars become one. -/
theorem bareDollar_not_kept :
    expandReferences {} "$Foo $\x7bBAR:-x\x7d" = .error "Foo" ∧
    expandBraces {} "$Foo $\x7bBAR:-x\x7d" = .ok "$Foo x" ∧
    expandReferences {} "$$ $\x7bBAR:-x\x7d" = .ok "$ x" ∧
    expandBraces {} "$$ $\x7bBAR:-x\x7d" = .ok "$$ x" := by
  have hname : "$Foo $\x7bBAR:-x\x7d".toList =
      '$' :: 'F' :: ("oo ".toList ++ '$' :: "\x7bBAR:-x\x7d".toList) := by decide
  have hdouble : "$$ $\x7bBAR:-x\x7d".toList =
      '$' :: '$' :: ' ' :: '$' :: "\x7bBAR:-x\x7d".toList := by decide
  refine ⟨?_, ?_, ?_, ?_⟩
  · rw [expandReferences_of_contains (by decide), hname, Piece.ofText_name (by decide), Piece.fill_cons,
      Piece.value_of_unset (Environment.get?_empty _)]
    decide
  · rw [expandBraces, hname, Piece.bracesOnly_bare rfl, Piece.bracesOnly_cons (by decide),
      Piece.bracesOnly_append (by decide), bracesOnly_bar, Piece.fill_char, Piece.fill_char,
      Piece.fill_chars, Piece.fill_cons, value_bar]
    rfl
  · rw [expandReferences_of_contains (by decide), hdouble, Piece.ofText_double,
      Piece.ofText_cons (by decide), Piece.ofText_braces braces?_bar, Piece.ofText_nil, Piece.fill_char,
      Piece.fill_char, Piece.fill_cons, braced_bar, value_bar]
    rfl
  · rw [expandBraces, hdouble, Piece.bracesOnly_double, Piece.bracesOnly_bare rfl,
      Piece.bracesOnly_cons (by decide), bracesOnly_bar, Piece.fill_char, Piece.fill_char, Piece.fill_char,
      Piece.fill_cons, value_bar]
    rfl

end DocTabs.Settings
