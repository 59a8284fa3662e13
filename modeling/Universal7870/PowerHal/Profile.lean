import Universal7870.PowerHal.Power

/-!
# Frequency limits follow the requested profile

The limit of each recorded cluster over whole runs of calls.  `setProfile` compares against
`current_profile` but never assigns it, so the remembered profile stays `BALANCED`: the runs in
which the limits still follow the requests are those that never need it to be anything else.
-/

namespace Universal7870.PowerHal

/-! ## 1. The loop over the clusters -/

theorem scalingMaxFreq_injective {a b : String} (h : scalingMaxFreq a = scalingMaxFreq b) :
    a = b := by
  have hl := congrArg String.toList h
  unfold scalingMaxFreq at hl
  rw [String.toList_append, String.toList_append] at hl
  exact String.toList_inj.mp (List.append_cancel_right hl)

theorem setMaxFreq_nodes_of_ne (fs : Sysfs) {cluster : String × String} {path : String}
    (h : path ≠ scalingMaxFreq cluster.1) :
    (Power.setMaxFreq fs cluster).nodes path = fs.nodes path := by
  unfold Power.setMaxFreq
  split
  · rfl
  · exact Sysfs.set_nodes_of_ne fs _ h

theorem setMaxFreq_isSome (fs : Sysfs) (cluster : String × String) (path : String) :
    ((Power.setMaxFreq fs cluster).nodes path).isSome = (fs.nodes path).isSome := by
  unfold Power.setMaxFreq
  split
  · rfl
  · exact Sysfs.set_isSome fs _ _ _

theorem foldl_setMaxFreq_nodes_of_ne (clusters : List (String × String)) (fs : Sysfs)
    {path : String} (h : ∀ c ∈ clusters, path ≠ scalingMaxFreq c.1) :
    (clusters.foldl Power.setMaxFreq fs).nodes path = fs.nodes path := by
  induction clusters generalizing fs with
  | nil => rfl
  | cons c cs ih =>
    rw [List.foldl_cons, ih _ fun d hd => h d (List.mem_cons_of_mem _ hd)]
    exact setMaxFreq_nodes_of_ne fs (h c (List.mem_cons_self ..))

theorem foldl_setMaxFreq_isSome (clusters : List (String × String)) (fs : Sysfs) (path : String) :
    ((clusters.foldl Power.setMaxFreq fs).nodes path).isSome = (fs.nodes path).isSome := by
  induction clusters generalizing fs with
  | nil => rfl
  | cons c cs ih => rw [List.foldl_cons, ih, setMaxFreq_isSome]

/-- After the loop every cluster it has a frequency for is limited to that frequency. -/
theorem foldl_setMaxFreq_get (clusters : List (String × String)) (fs : Sysfs)
    (hnodup : (clusters.map Prod.fst).Nodup) {path freq : String} (hmem : (path, freq) ∈ clusters)
    (hnode : (fs.nodes (scalingMaxFreq path)).isSome) (hword : IsWord freq) (hne : freq ≠ "") :
    (clusters.foldl Power.setMaxFreq fs).get (scalingMaxFreq path) "" = freq := by
  induction clusters generalizing fs with
  | nil => exact absurd hmem List.not_mem_nil
  | cons c cs ih =>
    rw [List.map_cons, List.nodup_cons] at hnodup
    rw [List.foldl_cons]
    rcases List.mem_cons.mp hmem with heq | htail
    · have hlater : ∀ d ∈ cs, scalingMaxFreq path ≠ scalingMaxFreq d.1 := by
        intro d hd hsame
        apply hnodup.1
        rw [← heq, show (path, freq).1 = d.1 from scalingMaxFreq_injective hsame]
        exact List.mem_map_of_mem hd
      rw [Sysfs.get_congr _ (foldl_setMaxFreq_nodes_of_ne cs _ hlater), ← heq]
      unfold Power.setMaxFreq
      rw [if_neg hne]
      exact Sysfs.get_set_self hnode hword hne
    · exact ih (Power.setMaxFreq fs c) hnodup.2 htail (by rw [setMaxFreq_isSome]; exact hnode)

/-! ## 2. What the HAL guarantees, and the invariant that carries it -/

/-- A cluster whose two frequencies were recorded: its path, hispeed and maximum frequency. -/
def Power.Recorded (p : Power) (path hispeed max : String) : Prop :=
  (path, hispeed) ∈ cpuSysfsPaths.zip p.hispeedFreqs ∧ (path, max) ∈ cpuSysfsPaths.zip p.maxFreqs ∧
    hispeed ≠ "" ∧ max ≠ ""

def ProfileApplied (p : Power) (fs : Sysfs) (requested : Option PowerProfile) : Prop :=
  ∀ path hispeed max, p.Recorded path hispeed max →
    fs.get (scalingMaxFreq path) "" = if requested = some .powerSave then hispeed else max

/-- No hint that came while `POWER_SAVE` was requested wrote a boost node. -/
def Service.BoostSilent (s : Service) : Prop :=
  ∀ r ∈ s.history, r.requested = some .powerSave → r.call.IsBoost →
    ∀ w ∈ r.writes, w.1 ≠ boostNode ∧ w.1 ≠ boostpulseNode

/-- The calls the HAL handles as it should while `POWER_SAVE` is requested: `BALANCED` is not
asked for, and no boost hint comes. -/
def KeepsPowerSave (s : Service) (c : Call) : Prop :=
  s.requested = some .powerSave → c.requests ≠ some .balanced ∧ ¬c.IsBoost

/-- A path that is not the frequency limit of a cluster. -/
def NotLimit (path : String) : Prop := path ∉ cpuSysfsPaths.map scalingMaxFreq

instance (path : String) : Decidable (NotLimit path) := inferInstanceAs (Decidable (¬_))

/-- The initialised HAL: what it recorded can be written back and read again, the input nodes it
found are not frequency limits, and the limits are those of the requested profile. -/
structure Power.Sound (p : Power) (fs : Sysfs) (requested : Option PowerProfile) : Prop where
  ready : p.initialized = true
  current : p.currentProfile = .balanced
  words : ∀ freq ∈ p.hispeedFreqs ++ p.maxFreqs, IsWord freq
  nodes : ∀ c ∈ cpuSysfsPaths.zip p.maxFreqs, c.2 ≠ "" → (fs.nodes (scalingMaxFreq c.1)).isSome
  touchkey : NotLimit p.secTouchkey
  touchscreen : NotLimit p.secTouchscreen
  applied : ProfileApplied p fs requested

/-- Before the first call to the HAL nothing is recorded. -/
def Power.Ready (p : Power) (fs : Sysfs) (requested : Option PowerProfile) : Prop :=
  p = {} ∧ requested = none ∨ p.Sound fs requested

/-! ## 3. Steps that leave the limits alone -/

def LimitsKept (fs fs' : Sysfs) : Prop :=
  ∀ path ∈ cpuSysfsPaths, fs'.nodes (scalingMaxFreq path) = fs.nodes (scalingMaxFreq path)

theorem LimitsKept.refl (fs : Sysfs) : LimitsKept fs fs := fun _ _ => rfl

theorem LimitsKept.trans {fs fs' fs'' : Sysfs} (h : LimitsKept fs fs') (h' : LimitsKept fs' fs'') :
    LimitsKept fs fs'' := fun path hp => (h' path hp).trans (h path hp)

theorem limitsKept_store (fs : Sysfs) {path : String} (text : String) (h : NotLimit path) :
    LimitsKept fs (fs.store path text) := by
  intro cluster hc
  apply Sysfs.store_nodes_of_ne
  intro heq
  exact h (heq ▸ List.mem_map_of_mem hc)

theorem limitsKept_set (fs : Sysfs) {path : String} (value : String) (h : NotLimit path) :
    LimitsKept fs (fs.set path value) := limitsKept_store fs _ h

theorem limitsKept_sendBoostpulse (fs : Sysfs) : LimitsKept fs (Power.sendBoostpulse fs) :=
  limitsKept_set fs _ (by decide)

theorem limitsKept_sendBoost (fs : Sysfs) (duration : Int) :
    LimitsKept fs (Power.sendBoost fs duration) :=
  (limitsKept_set fs _ (by decide)).trans (limitsKept_set _ _ (by decide))

theorem limitsKept_setIoIsBusy (fs : Sysfs) (interactive : Bool) :
    LimitsKept fs (Power.setIoIsBusy fs interactive) :=
  (limitsKept_set fs _ (by decide)).trans (limitsKept_set _ _ (by decide))

/-- `p'` is `p` but for the touch key flag. -/
def Power.SameButBlocked (p p' : Power) : Prop := ∃ b, p' = { p with touchkeysBlocked := b }

theorem setTouchkey_frame {p : Power} (fs : Sysfs) (interactive : Bool)
    (h : NotLimit p.secTouchkey) :
    p.SameButBlocked (p.setTouchkey fs interactive).1 ∧
      LimitsKept fs (p.setTouchkey fs interactive).2 := by
  have hself : p.SameButBlocked p := ⟨p.touchkeysBlocked, rfl⟩
  have hwrite : ∀ b : Bool, LimitsKept fs
      (if b then fs else fs.set p.secTouchkey (Universal7870.PowerHal.flag interactive)) := by
    intro b
    split
    · exact LimitsKept.refl fs
    · exact limitsKept_set fs _ h
  unfold Power.setTouchkey
  split
  · exact ⟨hself, LimitsKept.refl fs⟩
  · split
    · exact ⟨hself, hwrite _⟩
    · dsimp only
      split
      · exact ⟨hself, LimitsKept.refl fs⟩
      · split
        · exact ⟨⟨true, rfl⟩, hwrite _⟩
        · exact ⟨hself, hwrite _⟩

theorem limitsKept_setTouchscreen {p : Power} (fs : Sysfs) (interactive : Bool)
    (h : NotLimit p.secTouchscreen) : LimitsKept fs (p.setTouchscreen fs interactive) := by
  unfold Power.setTouchscreen
  split
  · exact LimitsKept.refl fs
  · exact limitsKept_set fs _ h

theorem recorded_path_mem {p : Power} {path hispeed max : String}
    (h : p.Recorded path hispeed max) : path ∈ cpuSysfsPaths :=
  (List.of_mem_zip h.1).1

theorem Power.Sound.limitsKept {p p' : Power} {fs fs' : Sysfs} {requested : Option PowerProfile}
    (h : p.Sound fs requested) (hp : p.SameButBlocked p') (hfs : LimitsKept fs fs') :
    p'.Sound fs' requested := by
  obtain ⟨b, rfl⟩ := hp
  refine ⟨h.ready, h.current, h.words, ?_, h.touchkey, h.touchscreen, ?_⟩
  · intro c hc hne
    rw [hfs c.1 (List.of_mem_zip hc).1]
    exact h.nodes c hc hne
  · intro path hispeed max hrec
    rw [Sysfs.get_congr _ (hfs path (recorded_path_mem hrec))]
    exact h.applied path hispeed max hrec

/-! ## 4. Initialisation -/

theorem notLimit_enabled (device : String) : NotLimit (device ++ "/enabled") := by
  intro hmem
  obtain ⟨path, -, hpath⟩ := List.mem_map.mp hmem
  -- the two node names end in different letters
  have hlast := congrArg (fun s => s.toList.getLast?) hpath
  unfold scalingMaxFreq at hlast
  rw [show "/cpufreq/scaling_max_freq" = "/cpufreq/scaling_max_fre" ++ "q" from rfl,
    show "/enabled" = "/enable" ++ "d" from rfl] at hlast
  simp only [String.toList_append, List.getLast?_append] at hlast
  rw [show "q".toList.getLast? = some 'q' from rfl,
    show "d".toList.getLast? = some 'd' from rfl] at hlast
  simp only [Option.some_or] at hlast
  exact absurd hlast (by decide)

def Power.InputNodesOk (p : Power) : Prop := NotLimit p.secTouchkey ∧ NotLimit p.secTouchscreen

theorem foldl_preserves {α β : Type*} {P : β → Prop} {f : β → α → β}
    (h : ∀ b a, P b → P (f b a)) (l : List α) {b : β} (hb : P b) : P (l.foldl f b) := by
  induction l generalizing b with
  | nil => exact hb
  | cons a as ih => exact ih (h b a hb)

/-- Finding the input nodes changes nothing but the two paths, and neither is a limit. -/
def Power.FoundNodes (p p' : Power) : Prop :=
  p'.InputNodesOk ∧ p' = { p with secTouchkey := p'.secTouchkey, secTouchscreen := p'.secTouchscreen }

theorem inspectInputFile_found {p p' : Power} (fs : Sysfs) (device file : String)
    (h : p.FoundNodes p') : p.FoundNodes (Power.inspectInputFile fs device p' file) := by
  obtain ⟨⟨hkey, hscreen⟩, heq⟩ := h
  unfold Power.inspectInputFile
  split
  · dsimp only
    split
    · exact ⟨⟨notLimit_enabled device, hscreen⟩, by rw [heq]⟩
    · split
      · exact ⟨⟨hkey, notLimit_enabled device⟩, by rw [heq]⟩
      · exact ⟨⟨hkey, hscreen⟩, heq⟩
  · exact ⟨⟨hkey, hscreen⟩, heq⟩

theorem findInputNodes_found {p : Power} (fs : Sysfs) (h : p.InputNodesOk) :
    p.FoundNodes (p.findInputNodes fs) := by
  apply foldl_preserves (P := p.FoundNodes) _ _ ⟨h, rfl⟩
  intro p' entry hp'
  split
  · exact foldl_preserves (P := p.FoundNodes)
      (fun q file hq => inspectInputFile_found fs entry.1 file hq) _ hp'
  · exact hp'

theorem snd_of_mem_zip_map {α β : Type*} {f : α → β} {l : List α} {c : α × β}
    (h : c ∈ l.zip (l.map f)) : c.2 = f c.1 := by
  have hzip : l.zip (l.map f) = l.map fun a => (a, f a) := by
    simpa using List.zip_map' (f := id) (g := f) (l := l)
  rw [hzip] at h
  obtain ⟨a, -, rfl⟩ := List.mem_map.mp h
  rfl

/-- Right after initialisation the recorded maximum is what the node reads. -/
theorem initializePower_sound (fs : Sysfs) : (Power.initializePower {} fs).Sound fs none := by
  have hfresh : Power.InputNodesOk {} := by
    constructor <;> decide
  obtain ⟨⟨hkey, hscreen⟩, heq⟩ := findInputNodes_found fs hfresh
  have hhispeed : (Power.initializePower {} fs).hispeedFreqs =
      cpuInteractivePaths.map fun path => fs.get (path ++ "/hispeed_freq") "" := by
    unfold Power.initializePower
    rw [heq]
    rfl
  have hmax : (Power.initializePower {} fs).maxFreqs =
      cpuSysfsPaths.map fun path => fs.get (scalingMaxFreq path) "" := by
    unfold Power.initializePower
    rw [heq]
    rfl
  refine ⟨rfl, rfl, ?_, ?_, hkey, hscreen, ?_⟩
  · intro freq hfreq
    rw [hhispeed, hmax] at hfreq
    rcases List.mem_append.mp hfreq with h | h
    · obtain ⟨path, -, rfl⟩ := List.mem_map.mp h
      exact isWord_get isWord_empty
    · obtain ⟨path, -, rfl⟩ := List.mem_map.mp h
      exact isWord_get isWord_empty
  · intro c hc hne
    rw [hmax] at hc
    rw [snd_of_mem_zip_map hc] at hne
    exact Sysfs.isSome_of_get_ne hne
  · rintro path hispeed max ⟨-, hrec, -, -⟩
    rw [hmax] at hrec
    rw [if_neg (by decide)]
    exact (snd_of_mem_zip_map hrec).symm

theorem ensureInitialized_sound {p : Power} {fs : Sysfs} {requested : Option PowerProfile}
    (h : p.Ready fs requested) : (p.ensureInitialized fs).Sound fs requested := by
  unfold Power.ensureInitialized
  rcases h with ⟨rfl, rfl⟩ | h
  · exact initializePower_sound fs
  · rw [if_pos h.ready]
    exact h

/-! ## 5. One call -/

theorem map_fst_zip_sublist {α β : Type*} (l : List α) (m : List β) :
    ((l.zip m).map Prod.fst).Sublist l := by
  induction l generalizing m with
  | nil => exact List.Sublist.refl _
  | cons a as ih =>
    cases m with
    | nil => exact List.nil_sublist _
    | cons b bs => exact (ih bs).cons_cons a

theorem setMaxFreqs_applied {freqs : List String} {fs : Sysfs} {path freq : String}
    (hmem : (path, freq) ∈ cpuSysfsPaths.zip freqs)
    (hnode : (fs.nodes (scalingMaxFreq path)).isSome) (hword : IsWord freq) (hne : freq ≠ "") :
    (Power.setMaxFreqs freqs fs).get (scalingMaxFreq path) "" = freq := by
  have hnodup : ((cpuSysfsPaths.zip freqs).map Prod.fst).Nodup := by
    exact List.Nodup.sublist (map_fst_zip_sublist _ _) (by decide)
  exact foldl_setMaxFreq_get _ fs hnodup hmem hnode hword hne

theorem Power.Sound.setMaxFreqs {p : Power} {fs : Sysfs} {old requested : Option PowerProfile}
    (h : p.Sound fs old) {freqs : List String} (hsub : ∀ f ∈ freqs, f ∈ p.hispeedFreqs ++ p.maxFreqs)
    (hfreqs : ∀ path hispeed max, p.Recorded path hispeed max →
      (path, if requested = some .powerSave then hispeed else max) ∈ cpuSysfsPaths.zip freqs) :
    p.Sound (Power.setMaxFreqs freqs fs) requested := by
  refine ⟨h.ready, h.current, h.words, ?_, h.touchkey, h.touchscreen, ?_⟩
  · intro c hc hne
    unfold Power.setMaxFreqs
    rw [foldl_setMaxFreq_isSome]
    exact h.nodes c hc hne
  · intro path hispeed max hrec
    have hmem := hfreqs path hispeed max hrec
    refine setMaxFreqs_applied hmem ?_ (h.words _ (hsub _ (List.of_mem_zip hmem).2)) ?_
    · exact h.nodes _ hrec.2.1 hrec.2.2.2
    · split
      · exact hrec.2.2.1
      · exact hrec.2.2.2

theorem setProfile_powerSave {p : Power} {fs : Sysfs} {requested : Option PowerProfile}
    (h : p.Sound fs requested) :
    (p.setProfile fs .powerSave).1.Sound (p.setProfile fs .powerSave).2 (some .powerSave) := by
  unfold Power.setProfile
  rw [h.current, if_neg (by decide)]
  refine h.setMaxFreqs (fun f hf => List.mem_append_left _ hf) fun path hispeed max hrec => ?_
  rw [if_pos rfl]
  exact hrec.1

theorem setProfile_highPerformance {p : Power} {fs : Sysfs} {requested : Option PowerProfile}
    (h : p.Sound fs requested) :
    (p.setProfile fs .highPerformance).1.Sound (p.setProfile fs .highPerformance).2
      (some .highPerformance) := by
  unfold Power.setProfile
  rw [h.current, if_neg (by decide)]
  refine h.setMaxFreqs (fun f hf => List.mem_append_right _ hf) fun path hispeed max hrec => ?_
  rw [if_neg (by decide)]
  exact hrec.2.1

/-- The request the remembered profile makes redundant: nothing is written. -/
theorem setProfile_balanced {p : Power} {fs : Sysfs} {requested : Option PowerProfile}
    (h : p.Sound fs requested) : p.setProfile fs .balanced = (p, fs) := by
  unfold Power.setProfile
  rw [if_pos h.current]

theorem Power.Sound.balanced {p : Power} {fs : Sysfs} {requested : Option PowerProfile}
    (h : p.Sound fs requested) (hreq : requested ≠ some .powerSave) :
    p.Sound fs (some .balanced) := by
  refine ⟨h.ready, h.current, h.words, h.nodes, h.touchkey, h.touchscreen, ?_⟩
  intro path hispeed max hrec
  have happ := h.applied path hispeed max hrec
  rw [if_neg hreq] at happ
  rw [if_neg (by decide)]
  exact happ

theorem powerHint_sound {p : Power} {fs : Sysfs} {requested : Option PowerProfile}
    (h : p.Ready fs requested) (hint : PowerHint) (data : Int)
    (hok : requested = some .powerSave → (Call.powerHint hint data).requests ≠ some .balanced) :
    (p.powerHint fs hint data).1.Sound (p.powerHint fs hint data).2
      ((Call.powerHint hint data).requests <|> requested) := by
  have hs := ensureInitialized_sound h
  have hself : (p.ensureInitialized fs).SameButBlocked (p.ensureInitialized fs) := ⟨_, rfl⟩
  have hbalanced : (Call.powerHint hint data).requests = some .balanced →
      requested ≠ some .powerSave := fun hb hr => hok hr hb
  unfold Power.powerHint
  dsimp only
  rw [if_neg (by rw [hs.current]; rintro ⟨h, -⟩; exact absurd h (by decide))]
  cases hint with
  | interaction => exact hs.limitsKept hself (limitsKept_sendBoostpulse fs)
  | launch => exact hs.limitsKept hself (limitsKept_sendBoostpulse fs)
  | other value => exact hs
  | lowPower =>
    dsimp only [Call.requests] at hbalanced ⊢
    by_cases hd : data ≠ 0
    · rw [if_pos hd]
      exact setProfile_powerSave hs
    · rw [if_neg hd] at hbalanced ⊢
      rw [setProfile_balanced hs]
      exact hs.balanced (hbalanced rfl)
  | lineage hint =>
    cases hint with
    | cpuBoost => exact hs.limitsKept hself (limitsKept_sendBoost fs data)
    | setProfile =>
      dsimp only [Call.requests] at hbalanced ⊢
      cases hprofile : PowerProfile.ofInt data with
      | powerSave => exact setProfile_powerSave hs
      | balanced =>
        rw [hprofile] at hbalanced
        dsimp only
        rw [setProfile_balanced hs]
        exact hs.balanced (hbalanced rfl)
      | highPerformance => exact setProfile_highPerformance hs
      | max =>
        unfold Power.setProfile
        rw [hs.current, if_neg (by decide)]
        exact hs
      | other value =>
        unfold Power.setProfile
        rw [hs.current, if_neg (by simp)]
        exact hs

theorem setInteractive_sound {p : Power} {fs : Sysfs} {requested : Option PowerProfile}
    (node : String) (h : p.Ready fs requested) (interactive : Bool) :
    (p.setInteractive node fs interactive).1.Sound (p.setInteractive node fs interactive).2
      requested := by
  have hs := ensureInitialized_sound h
  unfold Power.setInteractive
  dsimp only
  split
  · exact hs.limitsKept ⟨_, rfl⟩ (limitsKept_setIoIsBusy fs interactive)
  · have hscreen := limitsKept_setTouchscreen fs interactive hs.touchscreen
    obtain ⟨hsame, hkey⟩ := setTouchkey_frame
      ((p.ensureInitialized fs).setTouchscreen fs interactive) interactive hs.touchkey
    exact hs.limitsKept hsame ((hscreen.trans hkey).trans (limitsKept_setIoIsBusy _ interactive))

structure Service.Inv (s : Service) : Prop where
  ready : s.power.Ready s.sysfs s.requested
  silent : s.BoostSilent

theorem Power.Ready.applied {p : Power} {fs : Sysfs} {requested : Option PowerProfile}
    (h : p.Ready fs requested) : ProfileApplied p fs requested := by
  rcases h with ⟨rfl, -⟩ | h
  · rintro path hispeed max ⟨hrec, -⟩
    exact absurd (List.of_mem_zip hrec).2 List.not_mem_nil
  · exact h.applied

theorem handle_ready {node : String} {s : Service} {c : Call} {r : Power × Sysfs}
    (h : s.power.Ready s.sysfs s.requested) (hok : KeepsPowerSave s c)
    (hr : s.handle node c = some r) : r.1.Ready r.2 (c.requests <|> s.requested) := by
  cases c with
  | powerHint hint data =>
    obtain rfl := Option.some.inj hr
    exact Or.inr (powerHint_sound h hint data fun hreq => (hok hreq).1)
  | setInteractive interactive =>
    obtain rfl := Option.some.inj hr
    exact Or.inr (setInteractive_sound node h interactive)
  | other path text =>
    unfold Service.handle at hr
    dsimp only at hr
    split at hr
    · cases hr
    · rename_i hpath
      obtain rfl := Option.some.inj hr
      rcases h with hfresh | hs
      · exact Or.inl hfresh
      · exact Or.inr (hs.limitsKept ⟨_, rfl⟩ (limitsKept_store s.sysfs text hpath))

theorem step_inv {node : String} {s t : Service} {c : Call} (h : s.Inv) (hok : KeepsPowerSave s c)
    (hstep : s.step node c = some t) : t.Inv := by
  obtain ⟨r, hr, rfl⟩ := Option.map_eq_some_iff.mp hstep
  refine ⟨handle_ready h.ready hok hr, ?_⟩
  intro rec hrec hreq hboost
  rcases List.mem_append.mp hrec with hold | hnew
  · exact h.silent rec hold hreq hboost
  · obtain rfl := List.mem_singleton.mp hnew
    exact absurd hboost (hok hreq).2

/-! ## 6. Whole runs -/

theorem start_inv (fs : Sysfs) : (Service.start fs).Inv :=
  ⟨Or.inl ⟨rfl, rfl⟩, fun _ h => absurd h List.not_mem_nil⟩

/-- In every run of calls that never asks for `BALANCED`, and never hints at a boost, while
`POWER_SAVE` is the profile requested last, the limit of each recorded cluster is the one of the
profile requested last, and no boost node was written under `POWER_SAVE`. -/
theorem profile_applied_of_keepsPowerSave (node : String) (fs : Sysfs) (calls : List Call)
    (s : Service)
    (run : Lib.ExecWhere KeepsPowerSave (Lib.guarded (Service.step node)) (.start fs) calls s) :
    ProfileApplied s.power s.sysfs s.requested ∧ s.BoostSilent := by
  have hinv : s.Inv := run.invariant (fun _ _ _ hi hok hstep => step_inv hi hok hstep) (start_inv fs)
  exact ⟨hinv.ready.applied, hinv.silent⟩

/-- One recorded cluster: `cpu0` with two different frequencies. -/
def sampleSysfs : Sysfs where
  nodes path :=
    if path = "/sys/devices/system/cpu/cpu0/cpufreq/interactive/hispeed_freq" then some "902000\n"
    else if path = "/sys/devices/system/cpu/cpu0/cpufreq/scaling_max_freq" then some "1586000\n"
    else none

/-- The service once it has handled `calls`; an impossible call leaves it as it is. -/
def Service.after (node : String) (s : Service) (calls : List Call) : Service :=
  calls.foldl (fun s c => (s.step node c).getD s) s

theorem profile_applied_powerSave_highPerformance :
    ProfileApplied
        ((Service.start sampleSysfs).after "" [.powerHint .lowPower 1,
          .powerHint (.lineage .setProfile) 2]).power
        ((Service.start sampleSysfs).after "" [.powerHint .lowPower 1,
          .powerHint (.lineage .setProfile) 2]).sysfs (some .highPerformance) ∧
      ((Service.start sampleSysfs).after "" [.powerHint .lowPower 1,
        .powerHint (.lineage .setProfile) 2]).BoostSilent :=
  profile_applied_of_keepsPowerSave "" sampleSysfs
    [.powerHint .lowPower 1, .powerHint (.lineage .setProfile) 2] _
    (.cons ⟨fun h => absurd h (by decide), rfl⟩
      (.cons ⟨fun _ => ⟨by decide, by decide⟩, rfl⟩ (.nil _)))

/-- `LOW_POWER` on and off again: the second request is skipped, and `cpu0` stays limited. -/
theorem profile_not_applied_after_lowPower_off :
    ¬∀ (node : String) (fs : Sysfs) (calls : List Call) (s : Service),
      Lib.Exec (Lib.guarded (Service.step node)) (.start fs) calls s →
        ProfileApplied s.power s.sysfs s.requested ∧ s.BoostSilent := by
  intro hall
  have happ := (hall "" sampleSysfs [.powerHint .lowPower 1, .powerHint .lowPower 0] _
    (.cons rfl (.cons rfl (.nil _)))).1
  have hlimit := happ "/sys/devices/system/cpu/cpu0" "902000" "1586000"
    ⟨by decide, by decide, by decide, by decide⟩
  exact absurd hlimit (by decide)

/-! ## 7. The condition is exact -/

/-- `BALANCED` asked for under `POWER_SAVE` leaves every limit where it was. -/
theorem balanced_ignored {p : Power} {fs : Sysfs} (h : p.Sound fs (some .powerSave))
    {path hispeed max : String} (hrec : p.Recorded path hispeed max) (hne : hispeed ≠ max) :
    ¬ProfileApplied (p.setProfile fs .balanced).1 (p.setProfile fs .balanced).2
      (some .balanced) := by
  rw [setProfile_balanced h]
  intro happ
  have hold := h.applied path hispeed max hrec
  rw [if_pos rfl] at hold
  have hnew := happ path hispeed max hrec
  rw [if_neg (by decide)] at hnew
  exact hne (hold.symm.trans hnew)

/-- A boost hint is never dropped: it writes a boost node whatever profile was requested. -/
theorem boost_hint_writes {p : Power} {fs : Sysfs} {requested : Option PowerProfile}
    (h : p.Ready fs requested) {hint : PowerHint} {data : Int}
    (hboost : (Call.powerHint hint data).IsBoost) :
    ∃ w ∈ (p.powerHint fs hint data).2.writes.drop fs.writes.length,
      w.1 = boostNode ∨ w.1 = boostpulseNode := by
  have hs := ensureInitialized_sound h
  unfold Power.powerHint
  dsimp only
  rw [if_neg (by rw [hs.current]; rintro ⟨h, -⟩; exact absurd h (by decide))]
  cases hint with
  | interaction => exact ⟨(boostpulseNode, "1"), by simp [Power.sendBoostpulse], Or.inr rfl⟩
  | launch => exact ⟨(boostpulseNode, "1"), by simp [Power.sendBoostpulse], Or.inr rfl⟩
  | lowPower => exact absurd hboost id
  | other value => exact absurd hboost id
  | lineage hint =>
    cases hint with
    | cpuBoost => exact ⟨(boostNode, "1"), by simp [Power.sendBoost], Or.inl rfl⟩
    | setProfile => exact absurd hboost id

end Universal7870.PowerHal
