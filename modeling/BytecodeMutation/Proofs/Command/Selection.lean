import BytecodeMutation.Proofs.Engine.Production
import BytecodeMutation.Proofs.Report.Entry

/-! The number of a mutant. The console report and the production of a mutant load the same unit and
discover the same sites in it; but the report lists the sites by file and line, while a number
counts them as they were discovered. -/

namespace BytecodeMutation

open Session

namespace MutationEngine

variable {e : MutationEngine} {u : ClassUnit} {sites : List MutationSite}

theorem isChoice_of_ofCatalog {config : Config} {catalog : Option SignatureCatalog}
    (h : ofCatalog config catalog = .ok e) : Operator.IsChoice e.operators := by
  obtain ⟨policy, -, h⟩ := bind_eq_ok.1 h
  obtain ⟨operators, hselect, h⟩ := bind_eq_ok.1 h
  obtain rfl := Except.ok.inj h
  exact .inr ⟨config.enabled, hselect⟩

theorem isChoice_of_ofConfig {config : Config} {s t : Session}
    (h : Session.run (ofConfig config : ExceptT Error (StateM Session) MutationEngine) s =
      (.ok e, t)) : Operator.IsChoice e.operators := by
  have hcatalog : ∃ catalog, ofCatalog config catalog = .ok e := by
    unfold ofConfig at h
    cases hpath : config.catalogPath with
    | none =>
      rw [hpath] at h
      exact ⟨none, congrArg Prod.fst h⟩
    | some path =>
      rw [hpath] at h
      obtain ⟨c, r, -, h⟩ := run_bind_eq_ok.1 h
      exact ⟨some c, congrArg Prod.fst h⟩
  obtain ⟨catalog, hcatalog⟩ := hcatalog
  exact isChoice_of_ofCatalog hcatalog

/-- Each discovered site of a unit is produced from that unit. -/
theorem mutateAt_discovered (he : e.operators.Nodup) (hsites : e.discover [u] = .ok sites)
    (n : Nat) : e.mutateAt [u] sites n =
      match sites[n]? with
      | none => .error (.mutationNotFound ("#" ++ Decimal.natText n))
      | some site => (e.mutate u site.id).map fun mutant => (site, mutant) := by
  unfold mutateAt
  cases hn : sites[n]? with
  | none => rfl
  | some site =>
    obtain rfl := Except.ok.inj ((discover_eq he [u]).symm.trans hsites)
    obtain ⟨⟨v, m⟩, hvm, hsite⟩ := List.mem_flatMap.1 (List.mem_of_getElem? hn)
    obtain ⟨hv, -⟩ := mem_admittedMethods.1 hvm
    obtain rfl := List.mem_singleton.1 hv
    obtain ⟨f, -, hid⟩ := mem_sitesOf hsite
    have howner : site.id.method.owner = v.name := by rw [hid]; rfl
    simp only [howner, List.find?_cons, beq_self_eq_true]
    cases e.mutate v site.id <;> rfl

end MutationEngine

namespace Command

variable {config? : Option String} {unit : String} {s t : Session}

/-! ### What both commands begin with -/

/-- A configuration, a unit, and the engine of the configuration. -/
def prepare (config? : Option String) (unit : String) :
    ExceptT Failure (StateM Session) (Config × ClassUnit × MutationEngine) := do
  let config ← loadConfig config?
  let u ← loadUnit unit
  let engine ← ofError (MutationEngine.ofConfig config)
  return (config, u, engine)

theorem reads_prepare (config? : Option String) (unit : String) : Reads (prepare config? unit) :=
  (reads_loadConfig config?).bind fun config => (reads_loadUnit unit).bind fun _ =>
    ((MutationEngine.reads_ofConfig config).adapt _).bind fun _ => reads_pure _

theorem isChoice_of_prepare {config : Config} {u : ClassUnit} {e : MutationEngine}
    (h : Session.run (prepare config? unit) s = (.ok (config, u, e), t)) :
    Operator.IsChoice e.operators := by
  obtain ⟨config, _, -, h⟩ := run_bind_eq_ok.1 h
  obtain ⟨u, _, -, h⟩ := run_bind_eq_ok.1 h
  obtain ⟨e, _, hengine, h⟩ := run_bind_eq_ok.1 h
  obtain ⟨heq, -⟩ := Prod.mk.inj h
  obtain ⟨rfl, -, rfl⟩ := heq
  exact MutationEngine.isChoice_of_ofConfig (run_adapt_eq_ok.1 hengine)

theorem run_loadUnit {text : String} {u : ClassUnit} (hpresent : s.tree.isFile unit = true)
    (htext : s.tree.readText? unit = some text) (hunit : ClassUnit.ofText? text = some u) :
    Session.run (loadUnit unit : ExceptT Failure (StateM Session) ClassUnit) s = (.ok u, s) := by
  have hfile : Session.run (ClassUnit.ofFile unit : ExceptT Error (StateM Session) ClassUnit) s =
      (.ok u, s) := by
    rw [ClassUnit.ofFile, run_bind_eq_ok]
    refine ⟨true, s, congrArg (fun b => (Except.ok b, s)) hpresent, ?_⟩
    refine run_bind_eq_ok.2 ⟨some text, s, congrArg (fun x => (Except.ok x, s)) htext, ?_⟩
    dsimp only
    rw [hunit]
    rfl
  exact run_adapt_eq_ok.2 hfile

/-- Without a configuration file the default configuration is used. -/
theorem run_prepare_default {text : String} {u : ClassUnit} {e : MutationEngine}
    (hconfig : s.tree.isFile configFile = false) (hpresent : s.tree.isFile unit = true)
    (htext : s.tree.readText? unit = some text) (hunit : ClassUnit.ofText? text = some u)
    (hengine : MutationEngine.ofCatalog .default none = .ok e) :
    Session.run (prepare none unit) s =
      (.ok (.default, u, e), s.logged [⟨.info, "Using default configuration"⟩]) := by
  have hloaded : Session.run (loadConfig none : ExceptT Failure (StateM Session) Config) s =
      (.ok .default, s.logged [⟨.info, "Using default configuration"⟩]) := by
    rw [loadConfig, run_bind_eq_ok]
    exact ⟨false, s, congrArg (fun b => (Except.ok b, s)) hconfig, rfl⟩
  refine run_bind_eq_ok.2 ⟨_, _, hloaded, ?_⟩
  refine run_bind_eq_ok.2 ⟨_, _, run_loadUnit hpresent htext hunit, ?_⟩
  refine run_bind_eq_ok.2 ⟨e, _, ?_, rfl⟩
  refine run_adapt_eq_ok.2 ?_
  exact congrArg (fun x => (x, s.logged _)) hengine

theorem run_listMutants_eq (config? : Option String) (unit : String) :
    run (.listMutants config? .console [unit]) = (do
      let (config, u, e) ← prepare config? unit
      let sites ← ofError (ofLogged (e.discoverLogged [u]))
      let rename ← ofExcept config.fileRenaming
      Listing.print rename sites : ExceptT Failure (StateM Session) Unit) := by
  simp only [run, runListMutants, prepare, List.mapM_cons, List.mapM_nil, bind_assoc, pure_bind]

/-! ### The production of a site -/

def applied (site : MutationSite) : LogRecord :=
  ⟨.info, "Applied " ++ site.id.text ++ ": " ++ site.description⟩

def notProduced (n : Nat) (e : Error) : Failure :=
  (Failure.ofError e).within ("Could not produce mutant #" ++ Decimal.natText n)

/-- Puts a mutant where it is wanted. -/
def deliver (output : Option String) (mutant : ClassUnit) :
    ExceptT Failure (StateM Session) Unit :=
  match output with
  | some path => do
    ofError (mutant.save path)
    info ("Wrote mutant to " ++ path)
  | none => Workspace.print mutant.toText

/-- Produces the mutant of the site that has a number, if one has it. -/
def produce (e : MutationEngine) (u : ClassUnit) (n : Nat) (output : Option String) :
    Option MutationSite → ExceptT Failure (StateM Session) Unit
  | none => throw (notProduced n (.mutationNotFound ("#" ++ Decimal.natText n)))
  | some site => do
    let mutant ← (ofExcept (e.mutate u site.id)).adapt (notProduced n)
    Workspace.log [applied site]
    deliver output mutant

theorem run_produce_site {e : MutationEngine} {u mutant : ClassUnit} {site : MutationSite}
    (h : e.mutate u site.id = .ok mutant) (n : Nat) (output : Option String) (s : Session) :
    Session.run (produce e u n output (some site)) s =
      Session.run (deliver output mutant) (s.logged [applied site]) := by
  rw [produce, h]
  rfl

theorem run_mutate_eq (config? : Option String) (n : Nat) (output : Option String)
    (unit : String) :
    run (.mutate config? n output unit) = (do
      let (_, u, e) ← prepare config? unit
      let (site, mutant) ← (ofLogged (e.mutateNthLogged [u] n)).adapt (notProduced n)
      Workspace.log [applied site]
      deliver output mutant : ExceptT Failure (StateM Session) Unit) := by
  simp only [run, runMutate, prepare, bind_assoc, pure_bind]
  rfl

/-! ### Both commands after the beginning -/

theorem run_discover_eq_ok {e : MutationEngine} {units : List ClassUnit}
    {sites : List MutationSite} :
    Session.run (ofError (ofLogged (e.discoverLogged units)) :
      ExceptT Failure (StateM Session) (List MutationSite)) s = (.ok sites, t) ↔
      e.discover units = .ok sites ∧ t = s.logged (MutationEngine.discoveryLog sites) := by
  unfold MutationEngine.discoverLogged
  cases e.discover units with
  | error err => exact ⟨nofun, nofun⟩
  | ok found =>
    constructor
    · intro h
      obtain ⟨hfound, ht⟩ := Prod.mk.inj h
      obtain rfl := Except.ok.inj hfound
      exact ⟨rfl, ht.symm⟩
    · rintro ⟨hfound, rfl⟩
      obtain rfl := Except.ok.inj hfound
      rfl

/-- The site with a number is the one that was discovered at this position. -/
theorem run_produce {e : MutationEngine} {u : ClassUnit} {sites : List MutationSite}
    (he : e.operators.Nodup) (hsites : e.discover [u] = .ok sites) (n : Nat)
    (output : Option String) (s : Session) :
    ∃ log, Session.run (do
        let (site, mutant) ← (ofLogged (e.mutateNthLogged [u] n)).adapt (notProduced n)
        Workspace.log [applied site]
        deliver output mutant) s =
      Session.run (produce e u n output sites[n]?) (s.logged log) := by
  have hn := MutationEngine.mutateAt_discovered he hsites n
  unfold MutationEngine.mutateNthLogged
  rw [hsites]
  dsimp only
  rw [hn]
  cases sites[n]? with
  | none => exact ⟨_, rfl⟩
  | some site =>
    dsimp only [produce]
    cases e.mutate u site.id with
    | error err => exact ⟨_, rfl⟩
    | ok mutant => exact ⟨_, rfl⟩

section Prepared

variable {config : Config} {u : ClassUnit} {e : MutationEngine} {sites : List MutationSite}
  {log : Log}

theorem run_listMutants
    (hprepare : Session.run (prepare config? unit) s = (.ok (config, u, e), s.logged log))
    (hsites : e.discover [u] = .ok sites) {rename : String → String}
    (hrename : config.fileRenaming = .ok rename) :
    Session.run (run (.listMutants config? .console [unit])) s =
      (.ok (), ((s.logged (log ++ MutationEngine.discoveryLog sites)).shown
        (String.join ((Listing.listed rename sites).map (Listing.entryIn s rename)))).logged
          (SiteSummary.of sites).log) := by
  have hprint := Listing.run_print (ε := Failure) rename sites
    ((s.logged log).logged (MutationEngine.discoveryLog sites))
  rw [Listing.entryIn_logged, Listing.entryIn_logged, logged_logged] at hprint
  rw [run_listMutants_eq, run_bind_eq_ok]
  refine ⟨_, _, hprepare, run_bind_eq_ok.2 ⟨_, _, run_discover_eq_ok.2 ⟨hsites, rfl⟩, ?_⟩⟩
  refine run_bind_eq_ok.2 ⟨rename, _, by rw [hrename]; rfl, ?_⟩
  rw [logged_logged]
  exact hprint

theorem run_mutate
    (hprepare : Session.run (prepare config? unit) s = (.ok (config, u, e), s.logged log))
    (hsites : e.discover [u] = .ok sites) (n : Nat) (output : Option String) :
    ∃ log', Session.run (run (.mutate config? n output unit)) s =
      Session.run (produce e u n output sites[n]?) (s.logged log') := by
  have he := (isChoice_of_prepare hprepare).nodup
  obtain ⟨log', hproduce⟩ := run_produce he hsites n output (s.logged log)
  refine ⟨log ++ log', ?_⟩
  rw [run_mutate_eq, run_bind, hprepare, ← logged_logged]
  exact hproduce

end Prepared

end Command

/-! ### A folder with a unit of two lines -/

namespace Sample

/-- Stores the length of an array on the first line and returns it on the second. -/
def measuring : MethodBody :=
  ⟨"f", ⟨[.array .int], .int⟩, true, 1, 2,
    [.line 1, .load .reference 0, .arrayLength, .store .int 1, .line 2, .load .int 1,
      .valueReturn .int]⟩

def measuringUnit : ClassUnit := ⟨"A", none, [measuring]⟩

def measuringText : String :=
  "\x7b\"name\":\"A\",\"methods\":[\x7b\"name\":\"f\",\"descriptor\":\"([I)I\",\"is_static\":true," ++
    "\"max_stack\":1,\"max_locals\":2,\"instructions\":[\x7b\"Line\":1\x7d," ++
    "\x7b\"Load\":[\"Reference\",0]\x7d,\"ArrayLength\",\x7b\"Store\":[\"Int\",1]\x7d," ++
    "\x7b\"Line\":2\x7d,\x7b\"Load\":[\"Int\",1]\x7d,\x7b\"ValueReturn\":\"Int\"\x7d]\x7d]\x7d"

def folder : Session := .start ⟨[], [(["A.json"], .file measuringText)]⟩ false

/-- The site of an operator at an instruction of the method. -/
def measuringSite (ordinal index : Nat) (operator description : String) (category : Category)
    (line : UInt32) : MutationSite :=
  ⟨ordinal, ⟨⟨"A", "f", "([I)I"⟩, operator, index⟩, category, description, ⟨none, some line⟩⟩

def incrementSite : MutationSite :=
  measuringSite 0 5 "uoi_pre_increment" "Incremented local 1 before iload 1" .unaryStep 2

def storeSite : MutationSite :=
  measuringSite 3 3 "abs_store" "Negated value before istore 1" .negationInsertion 1

def measuringSites : List MutationSite := [
  incrementSite,
  measuringSite 1 5 "uoi_pre_decrement" "Decremented local 1 before iload 1" .unaryStep 2,
  measuringSite 2 5 "abs_load" "Negated value of iload 1" .negationInsertion 2,
  storeSite]

def incremented : ClassUnit :=
  measuringUnit.setMethod 0 { measuring with instructions :=
    [.line 1, .load .reference 0, .arrayLength, .store .int 1, .line 2, .increment 1 1,
      .load .int 1, .valueReturn .int] }

theorem ofText?_measuringText : ClassUnit.ofText? measuringText = some measuringUnit := by
  decide +kernel

theorem measuring_engine : ∃ e, MutationEngine.ofCatalog .default none = .ok e ∧
    e.discover [measuringUnit] = .ok measuringSites ∧
    e.mutate measuringUnit incrementSite.id = .ok incremented := by
  have h : ((MutationEngine.ofCatalog .default none).toOption.bind fun e =>
      (e.discover [measuringUnit]).toOption.bind fun sites =>
        (e.mutate measuringUnit incrementSite.id).toOption.map fun u => (sites, u)) =
      some (measuringSites, incremented) := by decide +kernel
  obtain ⟨e, he, h⟩ := Option.bind_eq_some_iff.1 h
  obtain ⟨sites, hsites, h⟩ := Option.bind_eq_some_iff.1 h
  obtain ⟨u, hu, h⟩ := Option.map_eq_some_iff.1 h
  obtain ⟨rfl, rfl⟩ := Prod.mk.inj h
  exact ⟨e, toOption_eq_some.1 he, toOption_eq_some.1 hsites, toOption_eq_some.1 hu⟩

theorem run_prepare_folder {e : MutationEngine}
    (h : MutationEngine.ofCatalog .default none = .ok e) :
    Session.run (Command.prepare none "A.json") folder =
      (.ok (.default, measuringUnit, e), folder.logged
        [⟨.info, "Using default configuration"⟩]) :=
  Command.run_prepare_default (by decide +kernel) (by decide +kernel) (by decide +kernel)
    ofText?_measuringText h

/-- What is printed of the site on the first line. -/
def storeEntry : String :=
  "<unknown>:1 (A.f([I)I):\nNEGATE #3 [c458d94c] abs_store: Negated value before istore 1\n\n"

/-- What is printed of the first site on the second line. -/
def incrementEntry : String :=
  "<unknown>:2 (A.f([I)I):\nUNARY #0 [9697e0b9] uoi_pre_increment: " ++
    "Incremented local 1 before iload 1\n\n"

theorem entryIn_storeSite : Listing.entryIn folder id storeSite = storeEntry := by
  rw [Listing.entryIn, Listing.entry, MutationIdentifier.fingerprint,
    Md5.hex_of_block (by decide +kernel)]
  decide +kernel

theorem entryIn_incrementSite : Listing.entryIn folder id incrementSite = incrementEntry := by
  rw [Listing.entryIn, Listing.entry, MutationIdentifier.fingerprint,
    Md5.hex_of_block (by decide +kernel)]
  decide +kernel

end Sample

/-! ### The listing and the numbers -/

namespace Command

/-- The console report of a unit lists the discovered sites by file and line, each with the text
that shows it. The number of a mutant counts them in the order of their discovery, whatever their
lines; the two agree exactly if the sites were discovered in the order of the listing. -/
theorem number_counts_discovered_sites
    {config? : Option String} {unit : String} {s t : Session}
    (h : Session.run (run (.listMutants config? .console [unit])) s = (.ok (), t)) :
    ∃ (config : Config) (u : ClassUnit) (e : MutationEngine) (rename : String → String)
      (sites : List MutationSite) (log : Log),
      Session.run (prepare config? unit) s = (.ok (config, u, e), s.logged log) ∧
      config.fileRenaming = .ok rename ∧ e.discover [u] = .ok sites ∧ t.tree = s.tree ∧
      t.printed = s.printed ++
        String.join ((Listing.listed rename sites).map (Listing.entryIn s rename)) ∧
      (∀ a ∈ sites, ∀ text, Listing.Shows s rename a text ↔ text = Listing.entryIn s rename a) ∧
      Listing.listed rename sites =
        sites.mergeSort (fun a b => decide (Listing.InOrder rename a b)) ∧
      (∀ r : Session, r.tree = s.tree → ∀ n output, ∃ log',
        Session.run (run (.mutate config? n output unit)) r =
          Session.run (produce e u n output sites[n]?) (r.logged log')) ∧
      ((∀ n : Nat, (Listing.listed rename sites)[n]? = sites[n]?) ↔
        sites.Pairwise (Listing.InOrder rename)) := by
  have h' := h
  rw [run_listMutants_eq] at h'
  obtain ⟨⟨config, u, e⟩, s₁, hprepare, h'⟩ := run_bind_eq_ok.1 h'
  obtain ⟨sites, s₂, hdiscover, h'⟩ := run_bind_eq_ok.1 h'
  obtain ⟨rename, s₃, hrename, -⟩ := run_bind_eq_ok.1 h'
  obtain ⟨log, hlog⟩ := (reads_prepare config? unit).again hprepare
  obtain ⟨hsites, -⟩ := run_discover_eq_ok.1 hdiscover
  have hrename : config.fileRenaming = .ok rename := congrArg Prod.fst hrename
  obtain ⟨-, rfl⟩ := Prod.mk.inj ((run_listMutants (hlog s rfl) hsites hrename).symm.trans h)
  refine ⟨config, u, e, rename, sites, log, hlog s rfl, hrename, hsites, rfl, rfl,
    fun _ _ _ => Listing.shows_iff, Listing.listed_eq_mergeSort rename sites,
    fun r hr n output => ?_, ?_⟩
  · exact run_mutate (hlog r hr) hsites n output
  · rw [← Listing.listed_eq_self_iff]
    exact List.ext_getElem?_iff.symm

end Command

open Sample

theorem folder_listing_reorders : ∃ t,
    Session.run (Command.run (.listMutants none .console ["A.json"])) folder = (.ok (), t) ∧
      t.printed = folder.printed ++
        String.join ((Listing.listed id measuringSites).map (Listing.entryIn folder id)) ∧
      (∀ a ∈ measuringSites, ∀ text,
        Listing.Shows folder id a text ↔ text = Listing.entryIn folder id a) ∧
      Listing.listed id measuringSites =
        measuringSites.mergeSort (fun a b => decide (Listing.InOrder id a b)) ∧
      ∃ n : Nat, (Listing.listed id measuringSites)[n]? ≠ measuringSites[n]? := by
  obtain ⟨e, hengine, hsites, -⟩ := measuring_engine
  have hprepare := run_prepare_folder hengine
  have hlist := Command.run_listMutants hprepare hsites rfl
  obtain ⟨config', u', e', rename, sites, log, hprepare', hrename, hsites', -, hprinted, hshows,
    hsorted, -, hagree⟩ := Command.number_counts_discovered_sites hlist
  obtain ⟨rfl, rfl, rfl⟩ := Except.ok.inj (Prod.mk.inj (hprepare'.symm.trans hprepare)).1
  obtain rfl := Except.ok.inj hrename
  obtain rfl := Except.ok.inj (hsites'.symm.trans hsites)
  refine ⟨_, hlist, hprinted, hshows, hsorted, not_forall.1 fun hall => ?_⟩
  exact absurd (hagree.1 hall) (by decide)

/-- Number zero is not the site that is listed first. -/
theorem first_listed_is_not_number_zero : incrementSite ≠ storeSite ∧
    Listing.entryIn folder id storeSite = storeEntry ∧
    Listing.entryIn folder id incrementSite = incrementEntry ∧
    (∃ rest, (Session.run (Command.run (.listMutants none .console ["A.json"])) folder).2.printed =
      Listing.entryIn folder id storeSite ++ rest) ∧
    ∃ log, Session.run (Command.run (.mutate none 0 none "A.json")) folder =
      (.ok (), (folder.logged (log ++ [Command.applied incrementSite])).shown
        incremented.toText) := by
  obtain ⟨e, hengine, hsites, hmutant⟩ := measuring_engine
  have hprepare := run_prepare_folder hengine
  refine ⟨by decide, entryIn_storeSite, entryIn_incrementSite, ?_, ?_⟩
  · obtain ⟨rest, hfirst⟩ : ∃ rest, Listing.listed id measuringSites = storeSite :: rest :=
      ⟨_, rfl⟩
    rw [Command.run_listMutants hprepare hsites rfl, hfirst, List.map_cons, String.join_cons]
    exact ⟨_, String.empty_append⟩
  · obtain ⟨log, hmutate⟩ := Command.run_mutate hprepare hsites 0 none
    refine ⟨log, hmutate.trans ((Command.run_produce_site hmutant 0 none _).trans ?_)⟩
    rw [logged_logged]
    rfl

end BytecodeMutation
