import ToolPack.Proofs.Json.Grammar
import ToolPack.Proofs.Package.LongDescription
import ToolPack.Proofs.Storage.Filing

/-!
# The list of scripts can be read

The names of the scripts are written as a list of JSON texts, in quotes and escaped.  Whatever is in
the names, the file is a JSON text for the list of them and for nothing else, so every reader gets
the names back, in order.

## What is here

* `ReadAs`: bytes that every reader takes for one value; `scriptList_readAs`,
  `scriptList_injective`: those of a list of names;
* `file?_writeScriptList`: what is in the file once the list is written, on every storage;
* `ThreePhases.writes_list`: a run that ends well writes the list of its plan, and no more to that
  path;
* `script_list_is_read`: all of it.
-/

set_option autoImplicit false

namespace ToolPack
namespace Package

open Storage ToolPack.Action

variable {names : List String} {dir : Path} {scripts : List StagedFile}

/-! ## Bytes and names -/

/-- Bytes are a JSON text for a value, and for no other one. -/
def ReadAs (bytes : ByteArray) (v : Json.Reading) : Prop :=
  ∃ text, String.fromUTF8? bytes = some text ∧ ∀ w, Json.Document text w ↔ w = v

theorem ReadAs.unique {bytes : ByteArray} {v w : Json.Reading} (hv : ReadAs bytes v)
    (hw : ReadAs bytes w) : v = w := by
  obtain ⟨text, htext, hreads⟩ := hv
  obtain ⟨other, hother, hreads'⟩ := hw
  obtain rfl := Option.some.inj (htext.symm.trans hother)
  exact (hreads' v).mp ((hreads v).mpr rfl)

/-- A list of names, as it is read. -/
def namesRead (names : List String) : Json.Reading := .list (names.map .text)

theorem namesRead_injective : Function.Injective namesRead := by
  intro names other h
  have htexts : Function.Injective Json.Reading.text := fun a b hab => Json.Reading.text.inj hab
  exact List.map_injective_iff.mpr htexts (Json.Reading.list.inj h)

/-- The list of names is read as the names. -/
theorem scriptList_readAs (names : List String) :
    ReadAs (scriptList names).toUTF8 (namesRead names) :=
  ⟨scriptList names, Zip.fromUTF8?_toUTF8 _, fun _ => Json.document_texts_iff⟩

/-- Different names never give one file. -/
theorem scriptList_injective {other : List String}
    (h : (scriptList names).toUTF8 = (scriptList other).toUTF8) : names = other :=
  namesRead_injective ((scriptList_readAs names).unique (h ▸ scriptList_readAs other))

/-! ## The file -/

/-- Once the list is written, it is in the file. -/
theorem file?_writeScriptList {σ κ : Type} {handler : Handler σ} (filing : Filing handler κ)
    {state : σ} (hok : ((writeScriptList dir scripts).run handler state).result = .ok ()) :
    (filing.file? ((writeScriptList dir scripts).run handler state).state
        (filing.place state (dir.join scriptListName))).map (·.1)
      = some (scriptList (scripts.map (·.name))).toUTF8 := by
  rw [writeScriptList] at hok ⊢
  generalize (scriptList (scripts.map (·.name))).toUTF8 = bytes at hok ⊢
  rcases hwrite : handler (.write (dir.join scriptListName) bytes) state with ⟨e | reply, state'⟩
  · rw [run_call_error hwrite] at hok
    cases hok
  · have hwritten := filing.written (congrArg Prod.fst hwrite)
    rw [hwrite] at hwritten
    rw [run_call_ok hwrite]
    exact hwritten

/-! ## Runs -/

/-- Where a plan has its list of scripts. -/
def listPath (r : Resolved) : Path := r.plan.outputDir.join scriptListName

/-- A run that ends well writes the list of its plan, and puts nothing else in its place later. -/
theorem ThreePhases.writes_list {r : Resolved} {report : Report} {path : Option Path}
    {past : List Exchange} (h : ThreePhases r report (.ok path) past) :
    report.scripts.map (·.name) = r.plan.scripts
      ∧ ∃ before behind, past = before ++ ⟨writeList r, .ok ()⟩ :: behind
        ∧ ∀ x ∈ behind, x.call.written? ≠ some (listPath r) := by
  cases h with
  | @intro inputs _ _ seen done written hseen hdone hwritten =>
    refine ⟨(hdone.traced hseen).scriptNames,
      seen ++ done ++ [⟨writeHeaders r report.longDescription, .ok ()⟩], written, ?_,
      hwritten.written?_ne fun dir => archivePath_ne_list r dir _⟩
    simp [describing]

/-- What a run that ends well leaves in memory under the path of the list. -/
theorem ThreePhases.list_content {r : Resolved} {m : Memory} {report : Report} {path : Option Path}
    (h : ThreePhases r report (.ok path) ((run r).exchanges Memory.handler m)) :
    ((run r).run Memory.handler m).state.get? (listPath r)
      = some (scriptList r.plan.scripts).toUTF8 := by
  obtain ⟨-, before, behind, hx, hbehind⟩ := h.writes_list
  rw [state_run, ← map_call_exchanges, hx, List.map_append, List.map_cons]
  exact Memory.get?_after_write _ _ (List.forall_mem_map.mpr hbehind) m

/-- **Every reader of JSON gets the names of the scripts back.**  Whatever is in the names, the
bytes that are written are read as the list of them in order and as nothing else, they are in the
file once they are written, and different names never give one file.  A run that ends well, on any
storage, writes the list of the scripts of its plan, which are those that it reports, and puts
nothing else in its place; in memory it is there at the end. -/
theorem script_list_is_read :
    (∀ (dir : Path) (scripts : List StagedFile),
        let names := scripts.map (·.name)
        ∃ bytes, writeScriptList dir scripts = call (.write (dir.join "scripts.json") bytes)
          ∧ ReadAs bytes (.list (names.map .text))
          ∧ (∀ {σ κ : Type} {handler : Handler σ} (filing : Filing handler κ) (state : σ),
            let ran := (writeScriptList dir scripts).run handler state
            ran.result = .ok () →
              (filing.file? ran.state (filing.place state (dir.join "scripts.json"))).map (·.1)
                = some bytes)
          ∧ ∀ (dir' : Path) (others : List StagedFile),
            writeScriptList dir' others = call (.write (dir'.join "scripts.json") bytes) →
              others.map (·.name) = names)
      ∧ ∀ r : Resolved,
        let path := r.plan.outputDir.join "scripts.json"
        ∃ bytes, ReadAs bytes (.list (r.plan.scripts.map .text))
          ∧ (∀ {σ : Type} (handler : Handler σ) (state : σ) (o : Outcome),
            ((run r).run handler state).result = .ok o →
              o.report.scripts.map (·.name) = r.plan.scripts
                ∧ ∃ before behind, (run r).exchanges handler state
                    = before ++ ⟨.write path bytes, .ok ()⟩ :: behind
                  ∧ ∀ x ∈ behind, x.call.written? ≠ some path)
          ∧ ∀ (schedule : Schedule) (files : Memory) (o : Outcome),
            let ran := (run r).run (failing schedule Memory.handler) ⟨files, []⟩
            ran.result = .ok o → ran.state.storage.get? path = some bytes := by
  constructor
  · intro dir scripts names
    refine ⟨(scriptList names).toUTF8, rfl, scriptList_readAs names,
      fun filing state hok => file?_writeScriptList filing hok, fun dir' others h => ?_⟩
    rw [writeScriptList] at h
    injection h with hcall
    injection hcall with _ hbytes
    exact scriptList_injective hbytes
  · intro r path
    refine ⟨(scriptList r.plan.scripts).toUTF8, scriptList_readAs r.plan.scripts, ?_, ?_⟩
    · intro σ handler state o hok
      obtain ⟨report, archive, hphases, rfl⟩ := threePhases_of_ok hok
      exact hphases.writes_list
    · intro schedule files o ran hok
      obtain ⟨hresult, -, -, hstate, -⟩ :=
        run_failing_of_spares (w := ⟨files, []⟩) (spares_of_ok (stopsOnFailure_run r) hok)
      have hfinal : ran.state.storage = ((run r).run Memory.handler files).state :=
        congrArg Watched.storage hstate
      obtain ⟨report, archive, hphases, rfl⟩ := threePhases_of_ok (hresult.symm.trans hok)
      rw [hfinal]
      exact hphases.list_content

/-- A script with a quote and a line feed in its name. -/
theorem quoted_name_is_read :
    let m := kit {} { names := some ["say \"hi\"\n"] }
    let r : Resolved := ⟨m.package, m.plan⟩
    let files := kitFiles.set ⟨"./scripts/say \"hi\"\n"⟩ "#!/bin/sh\n".toUTF8
    let ran := (run r).run (failing never Memory.handler) ⟨files, []⟩
    ran.result.isOk = true
      ∧ ∃ bytes, ran.state.storage.get? ⟨"./build/lib/scripts.json"⟩ = some bytes
        ∧ bytes = "[\n  \"say \\\"hi\\\"\\n\"\n]".toUTF8
        ∧ ReadAs bytes (.list [.text "say \"hi\"\n"]) := by
  intro m r files ran
  have hok : ran.result.isOk = true := by decide +kernel
  refine ⟨hok, ?_⟩
  cases hresult : ran.result with
  | error e =>
    rw [hresult] at hok
    cases hok
  | ok o =>
    obtain ⟨bytes, hread, -, hfinal⟩ := script_list_is_read.2 r
    have hpath : r.plan.outputDir.join "scripts.json" = ⟨"./build/lib/scripts.json"⟩ := by
      decide +kernel
    have hcontent := hfinal never files o hresult
    rw [hpath] at hcontent
    have hthere : ran.state.storage.get? ⟨"./build/lib/scripts.json"⟩
        = some "[\n  \"say \\\"hi\\\"\\n\"\n]".toUTF8 := by decide +kernel
    exact ⟨bytes, hcontent, Option.some.inj (hcontent.symm.trans hthere), hread⟩

end Package
end ToolPack
