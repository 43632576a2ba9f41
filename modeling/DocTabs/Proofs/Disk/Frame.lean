/-
Disks that differ below one directory only. Such a disk reads the same everywhere else, and making
directories or putting files below that directory leads to another one.
-/
import DocTabs.Proofs.Disk.Make

namespace DocTabs.Disk

open FilePath

/-- `e` is a tree that reads as `d` outside `out` and has kept the directories of `d`. -/
structure Outside (out : Location) (d e : Disk) : Prop where
  tree : e.IsTree
  here : e.here = d.here
  same : ∀ l, ¬ out <+: l → e.get? l = d.get? l
  kept : ∀ l, d.get? l = some .directory → e.get? l = some .directory

variable {d e m : Disk} {out l dir : Location} {p q : FilePath} {name : String}
  {f : RegularFile}

theorem Outside.refl (hd : d.IsTree) : Outside out d d := ⟨hd, rfl, fun _ _ => rfl, fun _ => id⟩

theorem Outside.leads (h : Outside out d e) (hp : d.Leads p l) : e.Leads p l :=
  hp.mono h.here h.kept

theorem Outside.grown (h : Outside out d e) (hm : m.IsTree) (hg : Grown (out <+: ·) e m) :
    Outside out d m where
  tree := hm
  here := hg.here.trans h.here
  same l hl := (hg.eq_of_not hl).trans (h.same l hl)
  kept l hl := hg.kept (h.kept l hl)

theorem Outside.trans {out' : Location} (h : Outside out d e) (h' : Outside out' e m)
    (hout : out <+: out') : Outside out d m where
  tree := h'.tree
  here := h'.here.trans h.here
  same l hl := (h'.same l fun hl' => hl (hout.trans hl')).trans (h.same l hl)
  kept l hl := h'.kept l (h.kept l hl)

/-- A file that is put below `out`, where it may be. -/
theorem Outside.put (h : Outside out d e) (hdir : e.get? (out ++ dir) = some .directory)
    (hname : IsName name) (hw : e.Writable (out ++ dir ++ [name])) :
    Outside out d (e.put (out ++ dir ++ [name]) (.file f)) where
  tree := h.tree.put hdir hname (.inr hw.not_directory)
  here := h.here
  same l hl := by
    rw [get?_put e (by simp), if_neg, h.same l hl]
    rintro rfl
    exact hl (by rw [List.append_assoc]; exact List.prefix_append ..)
  kept l hl := by
    have he := h.kept l hl
    rw [get?_put e (by simp), if_neg, he]
    rintro rfl
    exact hw.not_directory he

/-- A property of disks that changes below `out` keep: disks that have it differ from `d` only there, and
those that they grow to by directories have it, as do those that a file is put on which may be there. -/
structure Stable (out : Location) (d : Disk) (May : Location → RegularFile → Prop) (I : Disk → Prop) :
    Prop where
  outside {e : Disk} : I e → Outside out d e
  grown {e m : Disk} : I e → m.IsTree → Grown (out <+: ·) e m → I m
  put {e : Disk} {dir : Location} {name : String} {f : RegularFile} : I e →
    e.get? (out ++ dir) = some .directory → IsName name → e.Writable (out ++ dir ++ [name]) →
    May (dir ++ [name]) f → I (e.put (out ++ dir ++ [name]) (.file f))

theorem stable_outside (out : Location) (d : Disk) : Stable out d (fun _ _ => True) (Outside out d) where
  outside h := h
  grown h hm hg := h.grown hm hg
  put h hdir hname hw _ := h.put hdir hname hw

/-- On a disk that differs from `d` below `out` only, there is such a file at `l`. -/
structure Holds (out : Location) (d : Disk) (l : Location) (P : RegularFile → Prop) (e : Disk) : Prop where
  outside : Outside out d e
  file : ∃ f, P f ∧ e.get? l = some (.file f)

/-- It is kept by changes that put only such files there. -/
theorem stable_holds (out : Location) (d : Disk) (l : Location) (P : RegularFile → Prop) :
    Stable out d (fun place f => out ++ place = l → P f) (Holds out d l P) where
  outside h := h.outside
  grown h hm hg := by
    obtain ⟨f, hP, hf⟩ := h.file
    exact ⟨h.outside.grown hm hg, f, hP, hg.kept hf⟩
  put {e dir name f} h hdir hname hw hmay := by
    refine ⟨h.outside.put hdir hname hw, ?_⟩
    obtain ⟨before, hbefore, hfile⟩ := h.file
    by_cases hl : l = out ++ dir ++ [name]
    · refine ⟨f, hmay (by rw [hl, List.append_assoc]), ?_⟩
      rw [get?_put e (by simp), if_pos hl]
    · exact ⟨before, hbefore, by rw [get?_put e (by simp), if_neg hl, hfile]⟩

/-- A file that may only be read is kept by all changes, for no file may be put in its place. -/
theorem stable_readOnly (out : Location) (d : Disk) (l : Location) :
    Stable out d (fun _ _ => True) (Holds out d l (·.mode = .readOnly)) where
  outside h := h.outside
  grown h hm hg := (stable_holds out d l _).grown h hm hg
  put {e dir name f} h hdir hname hw _ := by
    refine (stable_holds out d l _).put h hdir hname hw fun hl => ?_
    obtain ⟨before, hmode, hfile⟩ := h.file
    rw [← hl, ← List.append_assoc] at hfile
    rw [(writable_iff hfile).1 hw] at hmode
    cases hmode

/-- The path of a directory that goes on by names from the path of another one leads there. -/
theorem Leads.extends (hd : d.IsTree) (hp : d.Leads p l) (hq : Extends p dir q)
    (hdir : d.get? (l ++ dir) = some .directory) : d.Leads q (l ++ dir) := by
  rcases List.eq_nil_or_concat dir with rfl | ⟨above, name, rfl⟩
  · rw [List.append_nil]
    exact hp.congr (by rw [hq.parts, List.append_nil])
  · rw [List.concat_eq_append] at hq hdir ⊢
    refine ⟨?_, hdir⟩
    rw [← List.append_assoc] at hdir ⊢
    exact (hp.locate_eq_ok hd hq).2 ⟨hd.get?_above hdir (by simp), rfl⟩

/-- The path of a file that goes on from the path of a directory is located there. -/
theorem locate_of_leads (hd : d.IsTree) (hp : d.Leads p l) (hq : Extends p (dir ++ [name]) q)
    (hfile : d.get? (l ++ dir ++ [name]) = some (.file f)) :
    d.locate q = .ok (l ++ dir ++ [name]) :=
  (hp.locate_eq_ok hd hq).2 ⟨hd.get?_above hfile (by simp), rfl⟩

/-- The content of a file is read through a path that goes on from the path of a directory. -/
theorem content_of_leads (hd : d.IsTree) (hp : d.Leads p l) (hq : Extends p (dir ++ [name]) q)
    (hfile : d.get? (l ++ dir ++ [name]) = some (.file f)) : d.content q = .ok f.content := by
  rw [Disk.content, locate_of_leads hd hp hq hfile]
  exact contentAt_eq_ok.2 ⟨f, hfile, rfl⟩

end DocTabs.Disk
