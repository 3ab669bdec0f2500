import JsonReference.Proofs.RefChain.Transparent

namespace JsonReference

namespace Loader

variable {l l' : Loader}

theorem Sound.pin (h : l.Sound) (key : Text) (document : Json) :
    Sound { l with cache := (l.cache.pin key document).2 } :=
  ⟨h.config, h.byLocator, h.entries.pin key document⟩

theorem Agree.addBundle (h : l.Agree l') (documents : List (Reference × Json)) :
    (l.addBundle documents).1 = (l'.addBundle documents).1 ∧
    (l.addBundle documents).2.Agree (l'.addBundle documents).2 := by
  induction documents generalizing l l' with
  | nil => exact ⟨rfl, h⟩
  | cons first rest ih =>
      obtain ⟨r, document⟩ := first
      simp only [Loader.addBundle]
      split
      · have hkey : (l.config.redirect r).locator = (l'.config.redirect r).locator :=
          h.congr (f := fun c => (c.redirect r).locator) fun _ => rfl
        refine ih ⟨h.left.pin _ _, h.right.pin _ _, h.config_eq, ?_⟩
        simp only [Cache.pin_pinned, h.pinned_eq, hkey]
      · exact ⟨rfl, h⟩

theorem addBundle_config (l : Loader) (documents : List (Reference × Json)) :
    (l.addBundle documents).2.config = l.config := by
  induction documents generalizing l with
  | nil => rfl
  | cons first rest ih =>
      simp only [Loader.addBundle]
      split
      · rw [ih]
      · rfl

theorem transparent_clear : Transparent fun l => ((), l.clear) where
  agree l h := ⟨h, ⟨h.config, h.byLocator, .clear _ l.cache⟩, rfl, rfl⟩
  answer _ _ _ := rfl

theorem pinned_make (config : Config) :
    (make config).cache.pinned =
      config.preloaded.foldl
        (fun pinned d => Table.put (config.redirect d.1).locator d.2 pinned) [] :=
  (List.foldl_hom Cache.pinned fun _ _ => rfl).symm

theorem entries_make (config : Config) : (make config).cache.entries = [] := by
  rw [make]
  generalize hc : Cache.empty config.cacheSize = c
  have h : c.entries = [] := hc ▸ rfl
  clear hc
  induction config.preloaded generalizing c with
  | nil => exact h
  | cons d rest ih => exact ih _ (by simp [Cache.pin, h, Table.drop])

theorem sound_make {config : Config} (hc : config.Sound) (hd : config.ByLocator) :
    (make config).Sound :=
  ⟨hc, hd, by simp [Cache.Keeps, entries_make]⟩

theorem agree_make {config : Config} (hc : config.Built) (hd : config.ByLocator) (m n : Nat) :
    (make (config.setCacheSize m)).Agree (make (config.setCacheSize n)) := by
  have hsound (k : Nat) : (make (config.setCacheSize k)).Sound :=
    sound_make (hc.setCacheSize k).sound hd
  refine ⟨hsound m, hsound n, rfl, ?_⟩
  rw [pinned_make, pinned_make]
  rfl

def cost (config : Config) (r : Reference) : List Request :=
  let requested := config.base.resolve r
  if !requested.isAbsolute then []
  else (request? config (config.redirect requested.toLocator)).toList

theorem document_of_error {requested : Reference} {e : LoadError}
    (h : (l.document requested).1 = .error e) :
    (l.document requested).2.cache.entries = l.cache.entries ∧
    (l.document requested).2.requests =
      (request? l.config (l.config.redirect requested)).toList ++ l.requests := by
  obtain ⟨hran, hentries⟩ := Cache.getOrFill_of_error h
  refine ⟨hentries, ?_⟩
  simp only [document, hran, if_true]

theorem getRef_of_error {r : Reference} {e : LoadError} (h : (l.getRef r).1 = .error e) :
    (l.getRef r).2.cache.entries = l.cache.entries ∧
    (l.getRef r).2.requests = cost l.config r ++ l.requests := by
  rw [getRef_eq] at h ⊢
  rw [cost]
  simp only at h ⊢
  split at h
  · next ha =>
    simp only [ha, if_true, List.nil_append, and_self]
  · next ha =>
    simp only [ha, Bool.false_eq_true, if_false]
    exact document_of_error (Except.map_error_iff.mp h)

end Loader

inductive Operation where
  | get (uri : Text)
  | getRef (r : Reference)
  | load (document : Json)
  | addBundle (documents : List (Reference × Json))
  | clear
  | resolve (maxDepth : Nat) (t : Tree)
  | checkRefs (maxDepth : Nat) (t : Tree)

inductive Answer where
  | tree (result : Except LoadError Tree)
  | bundle (result : Except LoadError Unit)
  | done
  | chain (result : Except ChainError RefChain)
  | checks (result : List RefCheck)

namespace Operation

variable {l l' : Loader} {op : Operation}

def perform : Operation → Loader → Answer × Loader
  | .get uri, l => (.tree (l.get uri).1, (l.get uri).2)
  | .getRef r, l => (.tree (l.getRef r).1, (l.getRef r).2)
  | .load document, l => (.tree (.ok (l.load document)), l)
  | .addBundle documents, l => (.bundle (l.addBundle documents).1, (l.addBundle documents).2)
  | .clear, l => (.done, l.clear)
  | .resolve maxDepth t, l =>
      (.chain (RefChain.resolve l maxDepth t).1, (RefChain.resolve l maxDepth t).2)
  | .checkRefs maxDepth t, l =>
      (.checks (RefCheck.all l maxDepth t).1, (RefCheck.all l maxDepth t).2)

def run : List Operation → Loader → List Answer × Loader
  | [], l => ([], l)
  | op :: rest, l =>
      ((op.perform l).1 :: (run rest (op.perform l).2).1, (run rest (op.perform l).2).2)

def isBundle : Operation → Bool
  | .addBundle _ => true
  | _ => false

def Obtained : Operation → Prop
  | .getRef r => r.uri.Obtained
  | .resolve _ t | .checkRefs _ t => t.Obtained
  | _ => True

theorem transparent_perform (ho : op.Obtained) (hb : op.isBundle = false) :
    Loader.Transparent op.perform := by
  cases op with
  | get uri => exact (Loader.transparent_get uri).map Answer.tree
  | getRef r => exact (Loader.transparent_getRef ho).map Answer.tree
  | load document =>
      exact (Loader.transparent_load document).map fun t => Answer.tree (.ok t)
  | addBundle documents => cases hb
  | clear => exact Loader.transparent_clear.map fun _ => Answer.done
  | resolve maxDepth t => exact (RefChain.transparent_resolve maxDepth ho).map Answer.chain
  | checkRefs maxDepth t => exact (RefCheck.transparent_all maxDepth ho).map Answer.checks

theorem agree_perform (ho : op.Obtained) (h : l.Agree l') :
    (op.perform l).1 = (op.perform l').1 ∧ (op.perform l).2.Agree (op.perform l').2 := by
  cases hb : op.isBundle with
  | false =>
      have ht := transparent_perform ho hb
      exact ⟨ht.answer l l' h, ht.agree_both h⟩
  | true =>
      cases op with
      | addBundle documents =>
          obtain ⟨hanswer, hagree⟩ := h.addBundle documents
          exact ⟨congrArg Answer.bundle hanswer, hagree⟩
      | _ => cases hb

theorem agree_run {ops : List Operation} (ho : ∀ op ∈ ops, op.Obtained) (h : l.Agree l') :
    (run ops l).1 = (run ops l').1 ∧ (run ops l).2.Agree (run ops l').2 := by
  induction ops generalizing l l' with
  | nil => exact ⟨rfl, h⟩
  | cons op rest ih =>
      rw [List.forall_mem_cons] at ho
      obtain ⟨hanswer, hagree⟩ := agree_perform ho.1 h
      obtain ⟨hanswers, hrest⟩ := ih ho.2 hagree
      exact ⟨congrArg₂ List.cons hanswer hanswers, hrest⟩

theorem perform_config (ho : op.Obtained) (h : l.Sound) :
    (op.perform l).2.config.setCacheSize 0 = l.config.setCacheSize 0 := by
  cases hb : op.isBundle with
  | false => exact ((transparent_perform ho hb).agree l h).config_eq.symm
  | true =>
      cases op with
      | addBundle documents => exact congrArg (·.setCacheSize 0) (l.addBundle_config documents)
      | _ => cases hb

theorem run_config {ops : List Operation} (ho : ∀ op ∈ ops, op.Obtained) (h : l.Sound) :
    (run ops l).2.config.setCacheSize 0 = l.config.setCacheSize 0 := by
  induction ops generalizing l with
  | nil => rfl
  | cons op rest ih =>
      rw [List.forall_mem_cons] at ho
      have hsound := (agree_perform ho.1 (.refl h)).2.left
      exact (ih ho.2 hsound).trans (perform_config ho.1 h)

/-- Of all that was done with a loader, only the bundles are left to see. -/
theorem agree_run_bundles {ops : List Operation} (ho : ∀ op ∈ ops, op.Obtained) (h : l.Agree l') :
    (run ops l).2.Agree (run (ops.filter isBundle) l').2 := by
  induction ops generalizing l l' with
  | nil => exact h
  | cons op rest ih =>
      rw [List.forall_mem_cons] at ho
      cases hb : op.isBundle with
      | false =>
          rw [List.filter_cons_of_neg (by simp [hb])]
          exact ih ho.2 (((transparent_perform ho.1 hb).agree l h.left).symm.trans h)
      | true =>
          rw [List.filter_cons_of_pos hb]
          exact ih ho.2 (agree_perform ho.1 h).2

theorem agree_of_bundles {config : Config} (hc : config.Built) (hd : config.ByLocator) (k k' : Nat)
    {ops ops' : List Operation} (ho : ∀ op ∈ ops, op.Obtained) (ho' : ∀ op ∈ ops', op.Obtained)
    (hbundles : ops.filter isBundle = ops'.filter isBundle) :
    (run ops (.make (config.setCacheSize k))).2.Agree
      (run ops' (.make (config.setCacheSize k'))).2 := by
  have hmake := Loader.agree_make hc hd k k'
  have hbundled := agree_run_bundles ho hmake
  rw [hbundles] at hbundled
  exact hbundled.trans (agree_run_bundles ho' (.refl hmake.right)).symm

/-- Doing `op` changes nothing that is kept, and doing it again makes the same requests again. -/
structure Unkept (op : Operation) (l : Loader) : Prop where
  entries_eq : (op.perform l).2.cache.entries = l.cache.entries
  pinned_eq : (op.perform l).2.cache.pinned = l.cache.pinned
  again : ∃ made, (op.perform l).2.requests = made ++ l.requests ∧
    (op.perform (op.perform l).2).2.requests = made ++ (op.perform l).2.requests

theorem unkept_getRef (h : l.Sound) {r : Reference} (hr : r.uri.Obtained) {e : LoadError}
    (he : (l.getRef r).1 = .error e) : Unkept (.getRef r) l := by
  have hagree := (Loader.getRef_spec h hr).2
  have hcost : Loader.cost l.config r = Loader.cost (l.getRef r).2.config r :=
    hagree.congr (f := fun c => Loader.cost c r) fun _ => rfl
  have he' : ((l.getRef r).2.getRef r).1 = .error e :=
    ((Loader.transparent_getRef hr).answer _ _ hagree).symm.trans he
  obtain ⟨hentries, hrequests⟩ := Loader.getRef_of_error he
  exact ⟨hentries, hagree.pinned_eq.symm, _, hrequests, hcost ▸ (Loader.getRef_of_error he').2⟩

theorem unkept_get (h : l.Sound) {uri : Text} {e : LoadError} (he : (l.get uri).1 = .error e) :
    Unkept (.get uri) l := by
  cases hp : Reference.parse uri with
  | ok r =>
      have hget := Loader.get_of_parse hp
      obtain ⟨hentries, hpinned, hagain⟩ :=
        unkept_getRef h (Reference.obtained_of_parse hp) (hget l ▸ he)
      simp only [perform] at hentries hpinned hagain
      refine ⟨?_, ?_, ?_⟩ <;> simp only [perform, hget]
      exacts [hentries, hpinned, hagain]
  | error e =>
      obtain ⟨e', hget⟩ := Loader.get_of_parse_error hp
      refine ⟨?_, ?_, [], ?_, ?_⟩ <;> simp only [perform, hget, List.nil_append]

theorem unkept_of_error (h : l.Sound) (ho : op.Obtained) {e : LoadError}
    (he : (op.perform l).1 = .tree (.error e)) : op.Unkept l := by
  cases op with
  | get uri => exact unkept_get h (Answer.tree.inj he)
  | getRef r => exact unkept_getRef h ho (Answer.tree.inj he)
  | load document => exact nomatch Answer.tree.inj he
  | _ => cases he

/-- The answers do not depend on how many documents the cache may keep. What could not be had is not
kept, and a check of all sites finds what a new loader with the same bundles gives for each. -/
theorem cache_transparent {config : Config} (hc : config.Built) (hd : config.ByLocator)
    (m n : Nat) {ops : List Operation} (ho : ∀ op ∈ ops, op.Obtained) :
    let l := (run ops (.make (config.setCacheSize m))).2
    let bundled := (run (ops.filter isBundle) (.make (config.setCacheSize n))).2
    (run ops (.make (config.setCacheSize m))).1 = (run ops (.make (config.setCacheSize n))).1 ∧
    (∀ (op : Operation) (e : LoadError), op.Obtained → (op.perform l).1 = .tree (.error e) →
      op.Unkept l) ∧
    ∀ (maxDepth : Nat) (t : Tree), t.Obtained →
      (RefCheck.all l maxDepth t).1 = (RefSite.all t.document).map fun site =>
        ⟨site, (RefChain.resolve bundled maxDepth (t.fork.jumpTo site.pointer)).1.map
          fun c => c.tree.location⟩ := by
  have hmake := Loader.agree_make hc hd m n
  have hrun := agree_run ho hmake
  refine ⟨hrun.1, ?_, ?_⟩
  · intro op e hop he
    exact unkept_of_error hrun.2.left hop he
  · intro maxDepth t ht
    exact RefCheck.all_eq (agree_run_bundles ho hmake) maxDepth ht

def oneFile : FileReader := fun path =>
  if path = Text.octets "/d".toList then .ok (Text.octets "\x7b\"$ref\":\"#\"\x7d".toList)
  else .error .missing

def filed : Config :=
  { Config.bare with
    downloaders := [("file".toList, .file oneFile), ("http".toList, .http .standard)] }

theorem built_filed : filed.Built := by
  have hfile : Config.Built { Config.bare with downloaders := [("file".toList, .file oneFile)] } :=
    .register "file".toList (.file oneFile) .bare rfl
  exact .register "http".toList (.http .standard) hfile rfl

theorem byLocator_filed : filed.ByLocator := by
  intro row hrow
  rcases List.mem_pair.mp hrow with rfl | rfl
  · exact Downloader.byLocator_file oneFile
  · exact Downloader.byLocator_http .standard

def outside : Tree :=
  .make .empty (.object [("$ref".toList, .string "file:///d".toList)]) .canonical

def visits : List Operation :=
  [.get "file:///d".toList, .get "file:///e".toList, .resolve 5 outside, .checkRefs 5 outside]

theorem cache_transparent_visits :
    (run visits (.make (filed.setCacheSize 0))).2.requests.length = 4 ∧
    (run visits (.make (filed.setCacheSize 8))).2.requests.length = 2 ∧
    (run visits (.make (filed.setCacheSize 0))).1 = (run visits (.make (filed.setCacheSize 8))).1 ∧
    (Operation.get "file:///e".toList).Unkept (run visits (.make (filed.setCacheSize 0))).2 := by
  have ht : outside.Obtained := .make .empty _ _
  have ho : ∀ op ∈ visits, op.Obtained := by simp [visits, Obtained, ht]
  obtain ⟨hanswers, hunkept, -⟩ := cache_transparent built_filed byLocator_filed 0 8 ho
  refine ⟨by decide +kernel, by decide +kernel, hanswers, ?_⟩
  generalize hl : (run visits (.make (filed.setCacheSize 0))).2 = l at hunkept ⊢
  have hfailed : (l.get "file:///e".toList).1.isOk = false := by
    rw [← hl]
    decide +kernel
  cases he : (l.get "file:///e".toList).1 with
  | ok t =>
      rw [he] at hfailed
      cases hfailed
  | error e => exact hunkept (.get "file:///e".toList) e trivial (congrArg Answer.tree he)

end Operation
end JsonReference
