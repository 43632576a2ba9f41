/-
What the build command comes to: the load of the settings and the build of the site decide its exit
code and the disk that it leaves, an error of either is what it prints last, and neither what is logged
nor how texts are colored and worded decides the two.
-/
import DocTabs.Command.Run
import DocTabs.Proofs.Settings.Override
import DocTabs.Proofs.Settings.Reference
import DocTabs.Proofs.Site.Success

namespace DocTabs.Command

open Disk Settings

variable {host host' : Host} {o o' : BuildOptions} {env env' : Environment} {d : Disk} {s : Settings}

theorem printed_append (lines more : List String) :
    printed (lines ++ more) = printed lines ++ printed more := by
  rw [printed, List.map_append, String.join_append]
  rfl

theorem printed_concat (lines : List String) (line : String) :
    printed (lines ++ [line]) = printed lines ++ line ++ "\n" := by
  rw [printed_append, String.append_assoc]
  rfl

/-- The settings that a build command loads. -/
def BuildOptions.load (o : BuildOptions) (env : Environment) (d : Disk) : Except LoadError Settings :=
  Settings.load d env o.file (some (o.overrides env))

/-- How a build command ends: the settings cannot be loaded, the site cannot be built from them, or
nothing fails. -/
inductive BuildOptions.Ends (host : Host) (o : BuildOptions) (env : Environment) (d : Disk) :
    Outcome → Prop
  | notLoaded {e : LoadError} : o.load env d = .error e →
      Ends host o env d
        { exitCode := 1, stderr := printed ([] ++ [host.errorLine (e.message host.mistake)]), disk := d }
  | notBuilt {s : Settings} {e : Site.BuildError} {before : List String} :
      o.load env d = .ok s → (Site.build (planOf s) d).result = .error e →
      Ends host o env d { exitCode := 1, stderr := printed (before ++ [host.errorLine e.message])
                          disk := (Site.build (planOf s) d).disk }
  | built {s : Settings} {r : Site.Report} {lines : List String} :
      o.load env d = .ok s → (Site.build (planOf s) d).result = .ok r →
      Ends host o env d
        { exitCode := 0, stderr := printed lines, disk := (Site.build (planOf s) d).disk }

theorem runBuild_ends (host : Host) (o : BuildOptions) (env : Environment) (d : Disk) :
    o.Ends host env d (runBuild host o env d) := by
  unfold runBuild
  cases hload : Settings.load d env o.file (some (o.overrides env)) with
  | error e => exact .notLoaded hload
  | ok s =>
    dsimp only
    cases hbuild : (Site.build (planOf s) d).result with
    | error e => exact .notBuilt hload hbuild
    | ok r => exact .built hload hbuild

namespace BuildOptions.Ends

variable {a b : Outcome} {e : LoadError}

theorem stdout_eq (h : o.Ends host env d a) : a.stdout = "" := by
  cases h <;> rfl

theorem exitCode_eq_zero (h : o.Ends host env d a) : a.exitCode = 0 ↔
    ∃ s r, o.load env d = .ok s ∧ (Site.build (planOf s) d).result = .ok r := by
  cases h with
  | notLoaded hload =>
    refine ⟨nofun, ?_⟩
    rintro ⟨s, r, hload', -⟩
    rw [hload] at hload'
    cases hload'
  | notBuilt hload hbuild =>
    refine ⟨nofun, ?_⟩
    rintro ⟨s, r, hload', hbuild'⟩
    rw [hload] at hload'
    cases hload'
    rw [hbuild] at hbuild'
    cases hbuild'
  | built hload hbuild => exact ⟨fun _ => ⟨_, _, hload, hbuild⟩, fun _ => rfl⟩

theorem exitCode_eq (h : o.Ends host env d a) : a.exitCode = 0 ∨ a.exitCode = 1 := by
  cases h with
  | notLoaded | notBuilt => exact .inr rfl
  | built => exact .inl rfl

theorem disk_eq (h : o.Ends host env d a) (hload : o.load env d = .ok s) :
    a.disk = (Site.build (planOf s) d).disk := by
  cases h with
  | notLoaded hload' => rw [hload] at hload'; cases hload'
  | notBuilt hload' | built hload' => rw [hload] at hload'; cases hload'; rfl

theorem disk_of_error (h : o.Ends host env d a) (hload : o.load env d = .error e) : a.disk = d := by
  cases h with
  | notLoaded => rfl
  | notBuilt hload' | built hload' => rw [hload] at hload'; cases hload'

/-- Without the source directory that the settings name, a command fails and changes nothing. -/
theorem of_not_directory (h : o.Ends host env d a) (hload : o.load env d = .ok s)
    (hsource : d.hasDirectory s.source = false) : a.exitCode = 1 ∧ a.disk = d := by
  obtain ⟨hresult, hdisk⟩ : (Site.build (planOf s) d).result = .error (.sourceNotFound s.source) ∧
      (Site.build (planOf s) d).disk = d := Site.build_of_not_directory hsource
  refine ⟨h.exitCode_eq.resolve_left fun hzero => ?_, (h.disk_eq hload).trans hdisk⟩
  obtain ⟨s', r, hload', hr⟩ := h.exitCode_eq_zero.1 hzero
  obtain rfl := Except.ok.inj (hload.symm.trans hload')
  rw [hresult] at hr
  cases hr

/-- A command that fails prints the error last. -/
theorem fails (h : o.Ends host env d a) (ha : a.exitCode ≠ 0) :
    ∃ lines message, a.stderr =
        printed lines ++ Style.error.paint host.colored ("Error: " ++ message) ++ "\n" ∧
      ((∃ e, o.load env d = .error e ∧ message = e.message host.mistake) ∨
        ∃ s e, o.load env d = .ok s ∧ (Site.build (planOf s) d).result = .error e ∧
          message = e.message) := by
  cases h with
  | @notLoaded e hload =>
    exact ⟨[], e.message host.mistake, printed_concat .., .inl ⟨e, hload, rfl⟩⟩
  | @notBuilt s e before hload hbuild =>
    exact ⟨before, e.message, printed_concat .., .inr ⟨s, e, hload, hbuild, rfl⟩⟩
  | built => exact absurd rfl ha

/-- Commands that load the same settings end with the same exit code and the same disk. -/
theorem congr (ha : o.Ends host env d a) (hb : o'.Ends host' env' d b)
    (h : o'.load env' d = o.load env d) : b.exitCode = a.exitCode ∧ b.disk = a.disk := by
  have hzero : b.exitCode = 0 ↔ a.exitCode = 0 := by
    rw [ha.exitCode_eq_zero, hb.exitCode_eq_zero, h]
  constructor
  · rcases ha.exitCode_eq with ha | ha <;> rcases hb.exitCode_eq with hb | hb <;> omega
  · cases hload : o.load env d with
    | error e => rw [ha.disk_of_error hload, hb.disk_of_error (h.trans hload)]
    | ok s => rw [ha.disk_eq hload, hb.disk_eq (h.trans hload)]

end BuildOptions.Ends

/-- The settings that are loaded depend neither on verbose output nor on the filter of the log, unless
the platform of the settings file refers to the latter. -/
theorem BuildOptions.load_congr (ho : o' = { o with verbose := o'.verbose })
    (henv : ∀ name, ¬ Environment.DependsOn name "RUST_LOG" → env'.get? name = env.get? name)
    (hrefers : ∀ file f v name, o.file.or (nearest? d) = some file → HoldsFile d file f →
      f.preferred = some v → Refers v name → ¬ Environment.DependsOn name "RUST_LOG") :
    o'.load env' d = o.load env d := by
  have hoverrides : o'.overrides env' = o.overrides env := by
    rw [ho, overrides, overrides, henv platformVariable (by decide)]
  rw [load, load, hoverrides, show o'.file = o.file by rw [ho]]
  exact Settings.load_congr _ fun file f v name hfile hf hv hname =>
    henv name (hrefers file f v name hfile hf hv hname)

/-- A run of `build` loads the settings that its options name, the directories from the command line
and the platform from there or else from the environment, and builds from them. It exits with 0 if
both succeed, and else with 1 behind the text of the error, in red where texts are colored; it leaves
what the build leaves, which is the disk as it was if the settings cannot be loaded or there is no source
directory; and its answer is empty. Verbose output and the filter of the log change neither exit code nor
disk, unless the platform of the settings file refers to the variable of the filter; nor do colors and
the wording of mistakes. -/
theorem run_builds (host : Host) {arguments : List String}
    (h : Request.ofArguments? arguments = some (.build o)) (env : Environment) (d : Disk) :
    let settings := Settings.load d env o.file
      (some ⟨o.source, o.output, o.preferred.or (env.get? "PTABS_DEFAULT_PLATFORM")⟩)
    let outcome := run host arguments env d
    outcome.stdout = "" ∧
    (outcome.exitCode = 0 ↔
      ∃ s r, settings = .ok s ∧ (Site.build ⟨s.source, s.output, s.preferred⟩ d).result = .ok r) ∧
    (∀ s, settings = .ok s →
      outcome.disk = (Site.build ⟨s.source, s.output, s.preferred⟩ d).disk) ∧
    (outcome.exitCode ≠ 0 → outcome.exitCode = 1 ∧
      ∃ lines message, outcome.stderr =
          printed lines ++ Style.error.paint host.colored ("Error: " ++ message) ++ "\n" ∧
        ((∃ e, settings = .error e ∧ message = e.message host.mistake) ∨
          ∃ s e, settings = .ok s ∧
            (Site.build ⟨s.source, s.output, s.preferred⟩ d).result = .error e ∧
            message = e.message)) ∧
    (∀ e, settings = .error e → outcome.disk = d) ∧
    (∀ s, settings = .ok s → d.hasDirectory s.source = false →
      outcome.exitCode = 1 ∧ outcome.disk = d) ∧
    ∀ host' arguments' o' env', Request.ofArguments? arguments' = some (.build o') →
      o' = { o with verbose := o'.verbose } →
      (∀ name, ¬ Environment.DependsOn name "RUST_LOG" → env'.get? name = env.get? name) →
      (∀ file f v name, o.file.or (nearest? d) = some file → HoldsFile d file f →
        f.preferred = some v → Refers v name → ¬ Environment.DependsOn name "RUST_LOG") →
      (run host' arguments' env' d).exitCode = outcome.exitCode ∧
        (run host' arguments' env' d).disk = outcome.disk := by
  have hrun : ∀ host {arguments o} env, Request.ofArguments? arguments = some (.build o) →
      o.Ends host env d (run host arguments env d) := by
    intro host arguments o env h
    rw [run, h]
    exact runBuild_ends host o env d
  intro settings outcome
  have hsettings : o.load env d = settings := by
    show Settings.load d env o.file (some ⟨_, _, o.preferred <|> _⟩) = _
    rw [Option.orElse_eq_orElse, Option.orElse_eq_or]
    rfl
  have hends : o.Ends host env d outcome := hrun host env h
  rw [← hsettings]
  exact ⟨hends.stdout_eq, hends.exitCode_eq_zero, fun s hs => hends.disk_eq hs, fun hne =>
    ⟨hends.exitCode_eq.resolve_left hne, hends.fails hne⟩, fun e he => hends.disk_of_error he,
    fun s hs hsource => hends.of_not_directory hs hsource, fun host' _ o' env' h' ho henv hrefers =>
      hends.congr (hrun host' env' h') (BuildOptions.load_congr ho henv hrefers)⟩

/-! ## Two projects -/

/-- The options of a build of `project`. -/
def projectOptions (verbose : Bool) : BuildOptions :=
  { file := some ⟨"conf/ptabs.toml"⟩, output := some ⟨"out"⟩, verbose }

theorem projectOptions_read :
    Request.ofArguments? ["build", "-c", "conf/ptabs.toml", "--output-dir=out"] =
      some (.build (projectOptions false)) ∧
    Request.ofArguments? ["build", "-vo", "out", "-cconf/ptabs.toml"] =
      some (.build (projectOptions true)) := by
  decide +kernel

theorem project_source_missing : project.hasDirectory projectSettings.source = false := by
  have hl : project.locate ⟨"conf/pages"⟩ = .ok ["project", "conf", "pages"] := by
    rw [locate_eq, if_neg (by decide), if_neg (by decide)]
    rfl
  show project.hasDirectory ⟨"conf/pages"⟩ = false
  rw [hasDirectory, find?, hl]
  rfl

theorem projectOptions_load : Settings.load project {} (projectOptions false).file
    (some ⟨(projectOptions false).source, (projectOptions false).output,
      (projectOptions false).preferred.or (Environment.get? {} "PTABS_DEFAULT_PLATFORM")⟩) =
    .ok projectSettings := by
  rw [Environment.get?_empty]
  exact project_loads

/-- What loads where there is no settings file, with both directories from the command line. -/
def smallSettings : Settings := ⟨"Android", ⟨"docs"⟩, ⟨"./docs/site"⟩, none⟩

theorem smallOptions_read :
    Request.ofArguments? ["build", "--source-dir", "docs", "-o./docs/site"] =
      some (.build { source := some ⟨"docs"⟩, output := some ⟨"./docs/site"⟩ }) := by
  decide +kernel

/-- The small site has no settings file. -/
theorem smallSite_loads : Settings.load Site.smallSite {} none
    (some ⟨some ⟨"docs"⟩, some ⟨"./docs/site"⟩,
      (none : Option String).or (Environment.get? {} "PTABS_DEFAULT_PLATFORM")⟩) =
    .ok smallSettings := by
  have hpath : (Location.toPath []).join ⟨fileName⟩ = ⟨"/ptabs.toml"⟩ := by decide +kernel
  have hl : Site.smallSite.locate ⟨"/ptabs.toml"⟩ = .ok ["ptabs.toml"] := by
    rw [locate_eq, if_neg (by decide), if_neg (by decide)]
    rfl
  have hhas : Site.smallSite.has ⟨"/ptabs.toml"⟩ = false := by
    rw [has, find?, hl]
    rfl
  have hnone : nearest? Site.smallSite = none := by
    show [(Location.toPath []).join ⟨fileName⟩].find? Site.smallSite.has = none
    rw [hpath, List.find?_singleton, hhas]
    rfl
  rw [Environment.get?_empty, load_of_directory hnone]
  exact Usable.check (s := smallSettings) (by decide)

/-- A run that prints plain texts, and one that colors them. -/
def plainHost : Host := ⟨false, fun _ => "no settings"⟩

def coloredHost : Host := ⟨true, fun _ => "no settings"⟩

/-- One command that fails, with and without colors and verbose output, and one that builds. -/
theorem run_builds_project :
    let outcome := run plainHost ["build", "-c", "conf/ptabs.toml", "--output-dir=out"] {} project
    let verbose := run coloredHost ["build", "-vo", "out", "-cconf/ptabs.toml"]
      ⟨[("RUST_LOG", "debug")]⟩ project
    let built := run plainHost ["build", "--source-dir", "docs", "-o./docs/site"] {} Site.smallSite
    outcome.exitCode = 1 ∧ outcome.disk = project ∧
      (∃ before, outcome.stderr = before ++ "Error: Source directory not found: conf/pages\n") ∧
      verbose.exitCode = 1 ∧ verbose.disk = project ∧ built.exitCode = 0 ∧
      built.disk = (Site.build Site.smallPlan Site.smallSite).disk := by
  intro outcome verbose built
  obtain ⟨-, -, -, hfails, -, hsource, hcongr⟩ := run_builds plainHost projectOptions_read.1 {} project
  obtain ⟨hexit, hdisk⟩ := hsource projectSettings projectOptions_load project_source_missing
  obtain ⟨-, lines, message, hstderr, hmessage⟩ := hfails (by rw [hexit]; decide)
  obtain rfl : message = "Source directory not found: conf/pages" := by
    rcases hmessage with ⟨e, he, -⟩ | ⟨s, e, hs, he, rfl⟩
    · rw [projectOptions_load] at he
      cases he
    · obtain rfl := Except.ok.inj (projectOptions_load.symm.trans hs)
      rw [(Site.build_of_not_directory project_source_missing).1] at he
      cases he
      rfl
  obtain ⟨hexit', hdisk'⟩ := hcongr coloredHost _ (projectOptions true) ⟨[("RUST_LOG", "debug")]⟩
    projectOptions_read.2 rfl (fun _ => Environment.get?_congr rfl)
    (fun file f v name hfile hf hv hname => by
      obtain rfl : ⟨"conf/ptabs.toml"⟩ = file := Option.some.inj hfile
      obtain rfl := project_holds.unique hf
      obtain rfl : "iOS" = v := Option.some.inj hv
      exact absurd hname (not_refers_of_not_contains (by decide) name))
  obtain ⟨-, hzero, hleft, -⟩ := run_builds plainHost smallOptions_read {} Site.smallSite
  obtain ⟨r, -, hbuild, -⟩ := Site.smallSite_builds
  refine ⟨hexit, hdisk, ⟨printed lines, ?_⟩, hexit'.trans hexit, hdisk'.trans hdisk,
    hzero.2 ⟨smallSettings, r, smallSite_loads, hbuild⟩, hleft smallSettings smallSite_loads⟩
  rw [hstderr, String.append_assoc]
  exact congrArg _ (by decide +kernel)

end DocTabs.Command
