import JsonReference.Command
import JsonReference.Proofs.Pointer.Text
import JsonReference.Proofs.RefChain.Route
import JsonReference.Proofs.RefSite.Search

namespace JsonReference

def ChainError.leadsNowhere : ChainError → Bool
  | .loop _ | .unresolvable .. => true
  | _ => false

namespace Command

open Loader

variable {s : Surroundings} {l : Loader} {directory target : Text} {r : Reference} {t : Tree}
  {p : Pointer} {maxDepth : Nat}

theorem targetReference_cases (directory target : Text) :
    targetReference directory target = fileReference directory target ∨
    ∃ r, Reference.parse target = .ok r ∧ targetReference directory target = .ok r := by
  rw [targetReference]
  split
  · next r hparse =>
    split
    · exact .inr ⟨r, hparse, rfl⟩
    · exact .inl rfl
  · exact .inl rfl

theorem obtained_targetReference (h : targetReference directory target = .ok r) :
    r.uri.Obtained := by
  rcases targetReference_cases directory target with hfile | ⟨r', hparse, hr'⟩
  · rw [hfile, fileReference] at h
    exact Reference.obtained_of_parse (Except.mapError_ok_iff.mp h)
  · obtain rfl : r' = r := Except.ok.inj (hr'.symm.trans h)
    exact Reference.obtained_of_parse hparse

theorem loadTarget_eq (hr : targetReference s.directory target = .ok r) (l : Loader) :
    loadTarget s l target =
      ((l.getRef r.toLocator).1.mapError (.loading target), (l.getRef r.toLocator).2) := by
  simp only [loadTarget, hr]
  rcases l.getRef r.toLocator with ⟨_ | _, _⟩ <;> rfl

theorem transparent_loadTarget (s : Surroundings) (target : Text) :
    Transparent fun l => loadTarget s l target := by
  cases hr : targetReference s.directory target with
  | error e =>
      simp only [loadTarget, hr]
      exact .const _
  | ok r =>
      simp only [loadTarget_eq hr]
      exact (transparent_getRef ((obtained_targetReference hr).withFragment none)).map _

theorem loadTarget_ok (hl : l.Sound) (h : (loadTarget s l target).1 = .ok t) :
    t.Obtained ∧ t.fork = t := by
  cases hr : targetReference s.directory target with
  | error e => simp [loadTarget, hr] at h
  | ok r =>
      rw [loadTarget_eq hr] at h
      have hget := Except.mapError_ok_iff.mp h
      refine ⟨obtained_getRef hl.config ((obtained_targetReference hr).withFragment none) hget, ?_⟩
      obtain ⟨-, document, -, rfl⟩ := getRef_ok hget
      rfl

theorem followChain_cases (h : (t.nodeAt? p).isSome) :
    (∃ c node, (RefChain.resolve l maxDepth (t.jumpTo p)).1 = .ok c ∧
      (followChain l maxDepth p t).1 = .ok (found node c.references)) ∨
    ∃ e, (RefChain.resolve l maxDepth (t.jumpTo p)).1 = .error e ∧
      (followChain l maxDepth p t).1 = chainFailure e := by
  have hstart : (t.jumpTo p).node?.isSome := by simpa [Tree.node?, Tree.nodeAt?] using h
  rw [followChain, if_neg (by simpa [Option.isSome_iff_ne_none] using h)]
  cases hresolve : RefChain.resolve l maxDepth (t.jumpTo p) with
  | mk result l' =>
      cases result with
      | error e => exact .inr ⟨e, rfl, rfl⟩
      | ok c =>
          have hend := RefChain.node?_isSome_of_resolve hstart (congrArg Prod.fst hresolve)
          obtain ⟨node, hnode⟩ := Option.isSome_iff_exists.mp hend
          exact .inl ⟨c, node, rfl, by simp only [hnode]⟩

theorem onTarget_eq (h : (loadTarget s l target).1 = .ok t)
    (f : Tree → Loader → Except CommandError Outcome × Loader) :
    onTarget s l target f = f t (loadTarget s l target).2 := by
  rw [onTarget]
  generalize loadTarget s l target = loaded at h
  obtain ⟨result, l'⟩ := loaded
  cases h
  rfl

theorem run_resolve (h : (loadTarget s l target).1 = .ok t) (p : Pointer) (maxDepth : Nat) :
    run (.resolve target p.text maxDepth) s l =
      followChain (loadTarget s l target).2 maxDepth p t := by
  simp only [run, parsePointer, Pointer.parse_text, Except.mapError, onTarget_eq h]

theorem run_check (h : (loadTarget s l target).1 = .ok t) (maxDepth : Nat) (quiet : Bool) :
    (run (.check target maxDepth quiet) s l).1 =
      .ok (report quiet (RefCheck.all (loadTarget s l target).2 maxDepth t).1 t) := by
  simp only [run, onTarget_eq h]

theorem targetReference_ne_vanished (directory target : Text) :
    targetReference directory target ≠ .error .vanished := by
  rcases targetReference_cases directory target with hfile | ⟨r, -, hr⟩
  · rw [hfile, fileReference]
    intro h
    obtain ⟨e, -, he⟩ := Except.mapError_error_iff.mp h
    cases he
  · simp [hr]

theorem loadTarget_ne_vanished (s : Surroundings) (l : Loader) (target : Text) :
    (loadTarget s l target).1 ≠ .error .vanished := by
  intro h
  cases hr : targetReference s.directory target with
  | error e =>
      obtain rfl : e = .vanished := by simpa [loadTarget, hr] using h
      exact targetReference_ne_vanished s.directory target hr
  | ok r =>
      rw [loadTarget_eq hr] at h
      obtain ⟨e, -, he⟩ := Except.mapError_error_iff.mp h
      cases he

theorem followChain_ne_vanished (l : Loader) (maxDepth : Nat) (p : Pointer) (t : Tree) :
    (followChain l maxDepth p t).1 ≠ .error .vanished := by
  cases h : t.nodeAt? p with
  | none => simp [followChain, h]
  | some node =>
      rcases followChain_cases (Option.isSome_of_eq_some h) with ⟨c, node, -, hfound⟩ | ⟨e, -, hfailed⟩
      · rw [hfound]
        simp
      · rw [hfailed]
        cases e <;> simp [chainFailure]

theorem run_resolve_ne_vanished (s : Surroundings) (l : Loader) (target text : Text)
    (maxDepth : Nat) : (run (.resolve target text maxDepth) s l).1 ≠ .error .vanished := by
  simp only [run]
  split
  · next e hparse =>
    obtain ⟨_, -, rfl⟩ := Except.mapError_error_iff.mp hparse
    simp
  · next p _ =>
    have hloaded := loadTarget_ne_vanished s l target
    rw [onTarget]
    generalize loadTarget s l target = loaded at hloaded
    rcases loaded with ⟨e | t, l'⟩
    · simpa using hloaded
    · exact followChain_ne_vanished l' maxDepth p t

/-- A command ends as the check of a site does: well where that holds, with a report where its chain
leads nowhere, and else with the same error. -/
structure Agrees (outcome : Except ChainError Reference) (result : Except CommandError Outcome) :
    Prop where
  held : (∃ o, result = .ok o ∧ o.code = 0) ↔ ∃ r, outcome = .ok r
  nowhere : (∃ o, result = .ok o ∧ o.code = failed) ↔
    ∃ e, outcome = .error e ∧ e.leadsNowhere = true
  error : ∀ e', result = .error e' ↔
    ∃ e, outcome = .error e ∧ e.leadsNowhere = false ∧ e' = .chain e

theorem agrees_found (r : Reference) (node : Json) (hops : List Reference) :
    Agrees (.ok r) (.ok (found node hops)) where
  held := by simp [found]
  nowhere := by simp [found, failed]
  error := by simp

theorem agrees_chainFailure (e : ChainError) : Agrees (.error e) (chainFailure e) := by
  cases e with
  | loop | unresolvable =>
      exact ⟨by simp [chainFailure, failed], by simp [chainFailure, ChainError.leadsNowhere],
        by simp [chainFailure, ChainError.leadsNowhere]⟩
  | depthExceeded | invalidRef | load =>
      exact ⟨by simp [chainFailure], by simp [chainFailure, ChainError.leadsNowhere],
        fun e' => by simpa [chainFailure, ChainError.leadsNowhere] using eq_comm⟩

/-- Whatever was asked of two loaders of one configuration into which the same bundles were put: the
command that follows the chain at a site ends as the check of that site does, and never in a place
where there is no node. -/
theorem run_resolve_of_check {config : Config} (hc : config.Built) (hd : config.ByLocator)
    (k k' : Nat) {ops ops' : List Operation} (ho : ∀ op ∈ ops, op.Obtained)
    (ho' : ∀ op ∈ ops', op.Obtained)
    (hbundles : ops.filter Operation.isBundle = ops'.filter Operation.isBundle)
    (s : Surroundings) {target : Text} {t : Tree}
    (ht : (loadTarget s (Operation.run ops (.make (config.setCacheSize k))).2 target).1 = .ok t)
    (hdocument : t.document.WellFormed) (maxDepth : Nat) :
    let l := (Operation.run ops (.make (config.setCacheSize k))).2
    let l' := (Operation.run ops' (.make (config.setCacheSize k'))).2
    let checks := (RefCheck.all (loadTarget s l target).2 maxDepth t).1
    (∀ quiet, (run (.check target maxDepth quiet) s l).1 = .ok (report quiet checks t)) ∧
    (∀ check ∈ checks, Agrees check.outcome
      (run (.resolve target check.site.pointer.text maxDepth) s l').1) ∧
    ∀ text, (run (.resolve target text maxDepth) s l').1 ≠ .error .vanished := by
  intro l l' checks
  have hagree : l.Agree l' := Operation.agree_of_bundles hc hd k k' ho ho' hbundles
  have hload := transparent_loadTarget s target
  have ht' : (loadTarget s l' target).1 = .ok t := (hload.answer l l' hagree).symm.trans ht
  obtain ⟨hobtained, hfork⟩ := loadTarget_ok hagree.left ht
  have hchecks := RefCheck.all_eq (hload.agree_both hagree) maxDepth hobtained
  rw [hfork] at hchecks
  refine ⟨run_check ht maxDepth, ?_, fun text => run_resolve_ne_vanished s l' target text maxDepth⟩
  rw [show checks = _ from hchecks, List.forall_mem_map]
  intro site hsite
  rw [run_resolve ht']
  have hstart : (t.nodeAt? site.pointer).isSome := RefSite.get?_isSome_of_mem hdocument hsite
  rcases followChain_cases hstart with ⟨c, node, hchain, hfound⟩ | ⟨e, he, hfailed⟩
  · rw [hchain, hfound]
    exact agrees_found c.tree.location node c.references
  · rw [he, hfailed]
    exact agrees_chainFailure e

def fates : Json :=
  let cite (raw : String) : Json := .object [("$ref".toList, .string raw.toList)]
  .object [
    ("a".toList, cite "#/b"), ("b".toList, .null), ("c".toList, cite "#/c"), ("d".toList, cite "#/e"),
    ("f".toList, cite "#/a"), ("g".toList, cite "#/f"), ("h".toList, cite "1:")]

def fatesRef : Reference := ⟨⟨some "urn".toList, none, "d".toList, none, none⟩, .pointer .root⟩

def bundled : List Operation := [.addBundle [(fatesRef, fates)]]

def fileless : Surroundings := ⟨fun _ => .error .missing, "/".toList⟩

theorem run_resolve_of_check_fates :
    ∃ (l l' : Loader) (t : Tree) (checks : List RefCheck),
      l = (Operation.run (bundled ++ [.get "urn:d".toList, .clear]) (.make (.setCacheSize .bare 8))).2 ∧
      l' = (Operation.run bundled (.make (.setCacheSize .bare 0))).2 ∧
      (loadTarget fileless l "urn:d".toList).1 = .ok t ∧ t.document = fates ∧
      (run (.check "urn:d".toList 2 true) fileless l).1 = .ok (report true checks t) ∧
      checks.map (·.isOk) = [true, false, false, true, false, false] ∧
      (∀ check ∈ checks, Agrees check.outcome
        (run (.resolve "urn:d".toList check.site.pointer.text 2) fileless l').1) ∧
      checks.map (fun check =>
        (run (.resolve "urn:d".toList check.site.pointer.text 2) fileless l').1.toOption.map
          Outcome.code) = [some 0, some 2, some 2, some 0, none, none] := by
  have hd : Config.bare.ByLocator := by simp [Config.ByLocator, Config.bare]
  have ho : ∀ op ∈ bundled, op.Obtained := by simp [bundled, Operation.Obtained]
  have ho' : ∀ op ∈ bundled ++ [.get "urn:d".toList, .clear], op.Obtained := by
    simp [bundled, Operation.Obtained]
  have hdocument : fates.WellFormed := Json.wellFormed_tidy fates (by simp [fates])
  have ht : (loadTarget fileless (Operation.run (bundled ++ [.get "urn:d".toList, .clear])
      (.make (.setCacheSize .bare 8))).2 "urn:d".toList).1 =
      .ok (.make fatesRef fates .standard) := by rfl
  obtain ⟨hcheck, hagrees, -⟩ :=
    run_resolve_of_check .bare hd 8 0 ho' ho rfl fileless ht hdocument 2
  exact ⟨_, _, _, _, rfl, rfl, ht, rfl, hcheck true, by decide +kernel, hagrees, by decide +kernel⟩

end Command
end JsonReference
