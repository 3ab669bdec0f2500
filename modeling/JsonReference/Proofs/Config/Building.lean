import JsonReference.Proofs.Config.Rewritten
import JsonReference.Settings

namespace JsonReference.Config

open MonadExcept (ofExcept)

abbrev Step := EStateM ConfigError Config Unit

namespace Step

def register (scheme : Text) (downloader : Downloader) : Step := do
  unless Uri.isScheme scheme do throw (.illegalScheme scheme)
  modify fun c => { c with downloaders := c.downloaders.put (Text.lower scheme) downloader }

def unregister (scheme : Text) : Step :=
  modify fun c => { c with downloaders := c.downloaders.drop (Text.lower scheme) }

def addSchemaRedirect (source target : Text) : Step := do
  let source ← ofExcept (absolute source)
  let target ← ofExcept (absolute target)
  if source.contains target then throw (.selfRedirect source.text)
  modify fun c =>
    { c with schemaRedirects := c.schemaRedirects.put source.locator target.toLocator }

def addPathRedirect (source target : Text) : Step := do
  let source ← ofExcept (directory source)
  let target ← ofExcept (directory target)
  if source = target then throw (.selfRedirect source)
  modify fun c => { c with pathRules := c.pathRules.filter (·.source ≠ source) }
  modify fun c => { c with pathRules := insertRule ⟨source, target⟩ c.pathRules }

def setBase (uri : Text) : Step := do
  let base ← ofExcept (absolute uri)
  modify fun c => { c with base }

def setDereferencing (dereferencing : Dereferencing) : Step :=
  modify fun c => { c with dereferencing }

def setCacheSize (cacheSize : Nat) : Step := modify fun c => { c with cacheSize }

def preloadAt (uri : Text) (document : Json) : Step := do
  let r ← ofExcept (absolute uri)
  modify fun c => { c with preloaded := c.preloaded.filter (!·.1.contains r) }
  modify fun c => { c with preloaded := c.preloaded ++ [(r, document)] }

def preload (document : Json) : Step := do
  match document.nodeId? with
  | some id => preloadAt id.text document
  | none => throw (.notAbsolute (missingName document))

end Step

inductive Edit where
  | register (scheme : Text) (downloader : Downloader)
  | unregister (scheme : Text)
  | addSchemaRedirect (source target : Text)
  | addPathRedirect (source target : Text)
  | setBase (uri : Text)
  | setDereferencing (dereferencing : Dereferencing)
  | setCacheSize (cacheSize : Nat)
  | preloadAt (uri : Text) (document : Json)
  | preload (document : Json)

namespace Edit

def step : Edit → Step
  | .register scheme downloader => .register scheme downloader
  | .unregister scheme => .unregister scheme
  | .addSchemaRedirect source target => .addSchemaRedirect source target
  | .addPathRedirect source target => .addPathRedirect source target
  | .setBase uri => .setBase uri
  | .setDereferencing dereferencing => .setDereferencing dereferencing
  | .setCacheSize cacheSize => .setCacheSize cacheSize
  | .preloadAt uri document => .preloadAt uri document
  | .preload document => .preload document

def change : Edit → Settings.Change
  | .register scheme downloader => fun c => c.register scheme downloader
  | .unregister scheme => fun c => .ok (c.unregister scheme)
  | .addSchemaRedirect source target => fun c => c.addSchemaRedirect source target
  | .addPathRedirect source target => fun c => c.addPathRedirect source target
  | .setBase uri => fun c => c.setBase uri
  | .setDereferencing dereferencing => fun c => .ok (c.setDereferencing dereferencing)
  | .setCacheSize cacheSize => fun c => .ok (c.setCacheSize cacheSize)
  | .preloadAt uri document => fun c => c.preloadAt uri document
  | .preload document => fun c => c.preload document

def outcome (change : Settings.Change) (c : Config) : EStateM.Result ConfigError Config Unit :=
  match change c with
  | .ok c' => .ok () c'
  | .error e => .error e c

theorem ofExcept_bind {α : Type} (x : Except ConfigError α) (f : α → Step) (c : Config) :
    (ofExcept x >>= f) c =
      match x with
      | .ok a => f a c
      | .error e => .error e c := by
  cases x <;> rfl

theorem preloadAt_eq (uri : Text) (document : Json) (c : Config) :
    Step.preloadAt uri document c = outcome (·.preloadAt uri document) c := by
  rw [outcome, Config.preloadAt]
  unfold Step.preloadAt
  cases absolute uri <;> rfl

/-- All that a step can be refused for is found out before it changes anything. -/
theorem step_eq (edit : Edit) (c : Config) : edit.step c = outcome edit.change c := by
  cases edit with
  | register scheme downloader =>
      simp only [step, change, outcome, Config.register]
      unfold Step.register
      split <;> rfl
  | unregister | setDereferencing | setCacheSize => rfl
  | addSchemaRedirect source target =>
      simp only [step, change, outcome, Config.addSchemaRedirect]
      unfold Step.addSchemaRedirect
      cases absolute source with
      | error e => rfl
      | ok s =>
          cases absolute target with
          | error e => rfl
          | ok t =>
              simp only [ofExcept_bind, Except.ok_bind]
              split <;> rfl
  | addPathRedirect source target =>
      simp only [step, change, outcome, Config.addPathRedirect]
      unfold Step.addPathRedirect
      cases directory source with
      | error e => rfl
      | ok s =>
          cases directory target with
          | error e => rfl
          | ok t =>
              simp only [ofExcept_bind, Except.ok_bind]
              split <;> rfl
  | setBase uri =>
      simp only [step, change, outcome, Config.setBase]
      unfold Step.setBase
      cases absolute uri <;> rfl
  | preloadAt uri document => exact preloadAt_eq uri document c
  | preload document =>
      simp only [step, change, outcome, Config.preload]
      unfold Step.preload
      cases document.nodeId? with
      | none => rfl
      | some id => exact preloadAt_eq id.text document c

theorem eq_of_error {edit : Edit} {c c' : Config} {e : ConfigError}
    (h : edit.step c = .error e c') : c' = c := by
  rw [step_eq, outcome] at h
  split at h
  · cases h
  · cases h
    rfl

theorem built {edit : Edit} {c c' : Config} (h : c.Built) (hc : edit.change c = .ok c') :
    c'.Built := by
  cases edit with
  | register scheme downloader => exact .register scheme downloader h hc
  | unregister scheme => cases hc; exact .unregister scheme h
  | addSchemaRedirect source target => exact .addSchemaRedirect source target h hc
  | addPathRedirect source target => exact .addPathRedirect source target h hc
  | setBase uri => exact .setBase uri h hc
  | setDereferencing dereferencing => cases hc; exact .setDereferencing dereferencing h
  | setCacheSize cacheSize => cases hc; exact .setCacheSize cacheSize h
  | preloadAt uri document => exact .preloadAt uri document h hc
  | preload document => exact .preload document h hc

theorem built_step {edit : Edit} {c c' : Config} (h : c.Built) (hc : edit.step c = .ok () c') :
    c'.Built := by
  rw [step_eq, outcome] at hc
  split at hc
  · next hchange =>
    cases hc
    exact built h hchange
  · cases hc

def ofSettings (s : Settings) : List Edit :=
  s.base.toList.map .setBase ++ s.dereferencing.toList.map .setDereferencing ++
  s.cacheSize.toList.map .setCacheSize ++
  (s.schemaRedirects.map fun row => .addSchemaRedirect row.1 row.2) ++
  (s.pathRedirects.map fun row => .addPathRedirect row.1 row.2)

theorem changes_eq (s : Settings) : s.changes = (ofSettings s).map change := by
  simp only [Settings.changes, ofSettings, List.map_append, List.map_map]
  rfl

end Edit

theorem built_make {c : Config} (h : c.Built) (edits : List Edit) :
    (Settings.make c (edits.map Edit.change)).2.Built := by
  induction edits generalizing c with
  | nil => exact h
  | cons edit rest ih =>
      rw [List.map_cons, Settings.make]
      split
      · next hc => exact ih (Edit.built h hc)
      · exact h

theorem built_apply {c : Config} (h : c.Built) (s : Settings) : (s.apply c).2.Built := by
  rw [Settings.apply, Edit.changes_eq]
  exact built_make h (Edit.ofSettings s)

/-- A builder, and what was frozen of it. -/
structure Workshop where
  builder : Config
  frozen : List Config

inductive Action where
  | edit (edit : Edit)
  | apply (settings : Settings)
  | freeze
  | thaw (number : Nat)

namespace Workshop

def perform (w : Workshop) : Action → Option ConfigError × Workshop
  | .edit edit =>
      match edit.step w.builder with
      | .ok _ c => (none, { w with builder := c })
      | .error e c => (some e, { w with builder := c })
  | .apply settings =>
      ((settings.apply w.builder).1, { w with builder := (settings.apply w.builder).2 })
  | .freeze => (none, { w with frozen := w.frozen ++ [w.builder] })
  | .thaw number => (none, { w with builder := w.frozen[number]?.getD w.builder })

def run (w : Workshop) (actions : List Action) : Workshop :=
  actions.foldl (fun w action => (w.perform action).2) w

inductive Fresh : Workshop → Prop
  | bare : Fresh ⟨.bare, []⟩
  | standard (files : FileReader) : Fresh ⟨.standard files, []⟩

def configs (w : Workshop) : List Config := w.builder :: w.frozen

def AllBuilt (w : Workshop) : Prop := ∀ c ∈ w.configs, c.Built

variable {w : Workshop}

theorem Fresh.allBuilt (h : w.Fresh) : w.AllBuilt := by
  intro c hc
  cases h with
  | bare => exact List.mem_singleton.mp hc ▸ .bare
  | standard files => exact List.mem_singleton.mp hc ▸ .standard files

theorem AllBuilt.perform (h : w.AllBuilt) (action : Action) : (w.perform action).2.AllBuilt := by
  obtain ⟨hbuilder, hfrozen⟩ := List.forall_mem_cons.mp h
  cases action with
  | edit edit =>
      rw [Workshop.perform]
      cases hstep : edit.step w.builder with
      | ok _ c => exact List.forall_mem_cons.mpr ⟨Edit.built_step hbuilder hstep, hfrozen⟩
      | error e c => exact List.forall_mem_cons.mpr ⟨Edit.eq_of_error hstep ▸ hbuilder, hfrozen⟩
  | apply settings =>
      exact List.forall_mem_cons.mpr ⟨built_apply hbuilder settings, hfrozen⟩
  | freeze =>
      refine List.forall_mem_cons.mpr ⟨hbuilder, fun c hc => ?_⟩
      rcases List.mem_append.mp hc with hc | hc
      · exact hfrozen c hc
      · exact List.mem_singleton.mp hc ▸ hbuilder
  | thaw number =>
      refine List.forall_mem_cons.mpr ⟨?_, hfrozen⟩
      rw [Workshop.perform]
      cases hnumber : w.frozen[number]? with
      | none => exact hbuilder
      | some c => exact hfrozen c (List.mem_of_getElem? hnumber)

theorem AllBuilt.run (h : w.AllBuilt) (actions : List Action) : (w.run actions).AllBuilt :=
  List.foldlRecOn actions _ h fun _ h action _ => h.perform action

theorem perform_of_refused {edit : Edit} {e : ConfigError}
    (h : (w.perform (.edit edit)).1 = some e) : (w.perform (.edit edit)).2 = w := by
  rw [perform] at h ⊢
  cases hstep : edit.step w.builder with
  | ok _ c => simp [hstep] at h
  | error e c => rw [Edit.eq_of_error hstep]

/-- Whatever is done in a workshop, all the configurations in it are well formed. They change every
locator into one, and what the path rules come to is always read. A step that is refused leaves all
of the workshop as it was. -/
theorem run_wellFormed (hw : w.Fresh) (actions : List Action) {r : Reference}
    (ho : r.uri.Obtained) (ha : r.uri.isAbsolute) :
    (∀ c ∈ (w.run actions).configs, c.WellFormed ∧ (c.redirect r).isAbsolute ∧
      (c.redirect r).uri.fragment = none ∧
      ∀ text, substitute? (c.schemaTarget r).locator c.pathRules = some text →
        Reference.parse text = .ok (c.redirect r)) ∧
    ∀ edit e, ((w.run actions).perform (.edit edit)).1 = some e →
      ((w.run actions).perform (.edit edit)).2 = w.run actions := by
  have hr := Reference.isLocator_toLocator ho ha
  refine ⟨fun c hc => ?_, fun _ _ => perform_of_refused⟩
  have hbuilt : c.Built := hw.allBuilt.run actions c hc
  have hredirect : (c.redirect r.toLocator).IsLocator := isLocator_redirect hbuilt.sound hr
  have htarget : (c.schemaTarget r.toLocator).IsLocator := isLocator_schemaTarget hbuilt.sound hr
  exact ⟨hbuilt.wellFormed, hredirect.isAbsolute, hredirect.fragment,
    fun _ => parse_substitute? hbuilt.wellFormed htarget⟩

def respelled : Settings :=
  { Settings.none with
    cacheSize := some 7
    schemaRedirects := [("urn:e".toList, "urn:E".toList), ("URN:E".toList, "urn:E#".toList)] }

def reworked : List Action :=
  [.edit (.addPathRedirect "HTTP://a/".toList "http://b/".toList),
    .edit (.addPathRedirect "http://a/x/".toList "urn:c/".toList), .freeze, .apply respelled,
    .edit (.addPathRedirect "http://a/x/".toList "http://b/".toList), .thaw 0]

def queried : Reference :=
  ⟨⟨some "http".toList, some "a".toList, "/x/".toList, some "y".toList, none⟩, .pointer .root⟩

theorem run_wellFormed_refused :
    ∃ (w : Workshop) (actions : List Action) (r : Reference), w.Fresh ∧
      Reference.parse "http://a/x/?y".toList = .ok r ∧
      ((w.run actions).builder.pathRules =
        [⟨"http://a/x/".toList, "urn:c/".toList⟩, ⟨"http://a/".toList, "http://b/".toList⟩]) ∧
      (w.run actions).builder.WellFormed ∧
      ((w.run actions).perform (.edit (.addPathRedirect "http://a/".toList "urn:d".toList))).1 =
        some (.notDirectory "urn:d".toList) ∧
      ((w.run actions).perform (.edit (.addPathRedirect "http://a/".toList "urn:d".toList))).2 =
        w.run actions ∧
      Reference.parse "urn:c/?y".toList = .ok ((w.run actions).builder.redirect r) := by
  have hr : Reference.parse "http://a/x/?y".toList = .ok queried := by rfl
  obtain ⟨hconfigs, hrefused⟩ := run_wellFormed .bare reworked (Reference.obtained_of_parse hr) rfl
  obtain ⟨hwell, -, -, hread⟩ := hconfigs _ List.mem_cons_self
  exact ⟨_, reworked, queried, .bare, hr, by rfl, hwell, by rfl, hrefused _ _ (by rfl),
    hread _ (by rfl)⟩

end Workshop

end JsonReference.Config
