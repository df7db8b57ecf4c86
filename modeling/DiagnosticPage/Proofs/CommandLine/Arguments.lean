import DiagnosticPage.CommandLine.Run
import DiagnosticPage.Proofs.CommandLine.Spelling

/-!
# The meaning of arguments

Arguments request something exactly if they are a spelling of it (`meaning_eq_run_iff`), and what a
run does depends on the values that are requested only (`perform_eq_of_get_eq`).

In one direction, `meaningFrom_phrase` says of each kind of phrase that its arguments, in front of
any others, do to the request what the phrase does.  So reading a list of phrases is one step after
the other, and by induction on the list the request gains what all of them give.  In the other
direction, what a single argument does is accounted for by a phrase (`accountedFor_step`), with the
next argument if it waits for a value; an induction along the recursion of `meaningFrom` then cuts
the arguments into phrases.
-/

namespace DiagnosticPage.CommandLine

variable (r : Request)

/-! ### Single arguments -/

/-- A value stands alone exactly if it is not empty and does not look like an option. -/
lemma standsAlone_iff (v : String) :
    StandsAlone v ↔ v ≠ "" ∧ looksLikeOption v.toList = false := by
  have hdash : v = "-" ↔ v.toList = ['-'] := by
    rw [← String.toList_inj]
    rfl
  rw [StandsAlone, hdash]
  refine and_congr_right fun _ => ?_
  rcases v.toList with _ | ⟨c, _ | ⟨d, cs⟩⟩
  · simp [looksLikeOption]
  · simp [looksLikeOption]
  · by_cases hc : c = '-' <;> simp [looksLikeOption, hc]

/-- What does not look like an option is the input. -/
lemma step_of_not_looksLikeOption {arg : List Char} (h : looksLikeOption arg = false) :
    step r arg = r.giveStep .input arg := by
  rcases arg with _ | ⟨c, _ | ⟨d, cs⟩⟩
  · rfl
  · by_cases hc : c = '-' <;> simp [step, hc]
  · have hc : c ≠ '-' := by
      rintro rfl
      cases h
    simp [step, hc]

/-- Behind two dashes there is a long name. -/
lemma step_long {arg : List Char} (h : arg ≠ []) : step r ('-' :: '-' :: arg) = longStep r arg := by
  cases arg with
  | nil => exact absurd rfl h
  | cons c cs => rfl

/-- Behind one dash there are short names. -/
lemma step_short {c : Char} (hc : c ≠ '-') (cs : List Char) :
    step r ('-' :: c :: cs) = shortStep r (c :: cs) := by
  simp [step, hc]

section

variable {name : String} {s : Slot}

/-- No long name is empty. -/
lemma name_toList_ne_nil (hname : (name, s) ∈ longNames) : name.toList ≠ [] := by
  rcases mem_longNames_iff.1 hname with ⟨rfl, -⟩ | ⟨rfl, -⟩ | ⟨rfl, -⟩ <;> decide

/-- An option by its long name alone awaits its value. -/
lemma longStep_name (hname : (name, s) ∈ longNames) : longStep r name.toList = .awaits r s := by
  rcases mem_longNames_iff.1 hname with ⟨rfl, rfl⟩ | ⟨rfl, rfl⟩ | ⟨rfl, rfl⟩ <;> rfl

/-- An option by its long name takes the value behind an equals sign. -/
lemma longStep_name_equals (hname : (name, s) ∈ longNames) (v : List Char) :
    longStep r (name.toList ++ '=' :: v) = r.giveStep s v := by
  rcases mem_longNames_iff.1 hname with ⟨rfl, rfl⟩ | ⟨rfl, rfl⟩ | ⟨rfl, rfl⟩ <;> rfl

end

/-- Flags by their short names are counted one by one. -/
lemma shortStep_replicate_append (n : ℕ) (cs : List Char) :
    shortStep r (List.replicate n 'v' ++ cs) = shortStep (Request.moreVerbose^[n] r) cs := by
  induction n generalizing r with
  | zero => rfl
  | succ n ih =>
    rw [Function.iterate_succ_apply, ← ih]
    rfl

/-- Flags in a row are written as one letter each. -/
lemma toList_flagNames (n : ℕ) : (flagNames n).toList = List.replicate n 'v' :=
  String.toList_ofList

/-- The short name of the output takes what is behind it, if no equals sign is between. -/
lemma shortStep_output {v : List Char} (hne : v ≠ []) (hequals : v.head? ≠ some '=') :
    shortStep r ('o' :: v) = r.giveStep .output v := by
  cases v with
  | nil => exact absurd rfl hne
  | cons c cs =>
    have hc : c ≠ '=' := fun h => hequals (congrArg some h)
    simp [shortStep, hc]

/-- Flags may stand in front of other short names. -/
lemma step_flags_append (n : ℕ) {c : Char} (hc : c ≠ '-') (cs : List Char) :
    step r ('-' :: (List.replicate n 'v' ++ c :: cs)) =
      shortStep (Request.moreVerbose^[n] r) (c :: cs) := by
  rw [← shortStep_replicate_append]
  cases n with
  | zero => exact step_short r hc cs
  | succ n => exact step_short r (by decide) _

/-! ### Phrases -/

/-- The meaning of arguments after a request that may have failed. -/
def meaningAfter (r? : Option Request) (args : List String) : Meaning :=
  match r? with
  | some r => meaningFrom r args
  | none => .misuse

/-- A meaning goes on only from a request that was granted. -/
lemma meaningAfter_eq_run_iff {r? : Option Request} {args : List String} {r' : Request} :
    meaningAfter r? args = .run r' ↔ ∃ r₁, r? = some r₁ ∧ meaningFrom r₁ args = .run r' := by
  cases r? <;> simp [meaningAfter]

section

variable {r} {r' : Request} {arg : String} {s : Slot}

/-- An argument that is complete is followed by the others. -/
lemma meaningFrom_of_done (h : step r arg.toList = .done r') (args : List String) :
    meaningFrom r (arg :: args) = meaningFrom r' args := by
  rw [meaningFrom, h]

/-- An argument that gives a value is followed by the others if the value may be given. -/
lemma meaningFrom_of_giveStep {v : List Char} (h : step r arg.toList = r'.giveStep s v)
    (args : List String) :
    meaningFrom r (arg :: args) = meaningAfter (r'.give? s v) args := by
  rw [meaningFrom, h, Request.giveStep]
  cases r'.give? s v <;> rfl

/-- An argument that awaits a value takes the next one, if that can stand alone. -/
lemma meaningFrom_of_awaits (h : step r arg.toList = .awaits r' s) {v : String}
    (hv : StandsAlone v) (args : List String) :
    meaningFrom r (arg :: v :: args) = meaningAfter (r'.give? s v.toList) args := by
  rw [meaningFrom, h]
  simp only [((standsAlone_iff v).1 hv).2, Bool.false_eq_true, if_false]
  cases r'.give? s v.toList <;> rfl

end

/-- A phrase at the front has its effect, and the arguments behind it are not touched. -/
lemma meaningFrom_phrase (p : Phrase) (args : List String) :
    meaningFrom r (p.arguments ++ args) = meaningAfter (r.after? p) args := by
  cases p with
  | input v hv =>
    refine meaningFrom_of_giveStep ?_ args
    exact step_of_not_looksLikeOption r ((standsAlone_iff v).1 hv).2
  | named name s hname v hv =>
    refine meaningFrom_of_awaits ?_ hv args
    rw [String.toList_append]
    exact (step_long r (name_toList_ne_nil hname)).trans (longStep_name r hname)
  | namedWith name s hname v hv =>
    have harg : ("--" ++ name ++ "=" ++ v).toList =
        '-' :: '-' :: (name.toList ++ '=' :: v.toList) := by
      simp [String.toList_append]
    refine meaningFrom_of_giveStep ?_ args
    rw [harg, step_long r (by simp), longStep_name_equals r hname]
    rfl
  | verbose => exact meaningFrom_of_done rfl args
  | flags n =>
    have harg : ("-" ++ flagNames (n + 1)).toList = '-' :: (List.replicate n 'v' ++ ['v']) := by
      rw [String.toList_append, toList_flagNames, List.replicate_succ']
      rfl
    refine meaningFrom_of_done ?_ args
    rw [harg, step_flags_append r n (by decide)]
    exact congrArg Step.done (Function.iterate_succ_apply' _ n r).symm
  | output n v hv =>
    have harg : ("-" ++ flagNames n ++ "o").toList = '-' :: (List.replicate n 'v' ++ ['o']) := by
      simp [String.toList_append, toList_flagNames]
    refine meaningFrom_of_awaits ?_ hv args
    rw [harg, step_flags_append r n (by decide)]
    rfl
  | outputWith n v hv =>
    have harg : ("-" ++ flagNames n ++ "o=" ++ v).toList =
        '-' :: (List.replicate n 'v' ++ 'o' :: '=' :: v.toList) := by
      simp [String.toList_append, toList_flagNames]
    refine meaningFrom_of_giveStep ?_ args
    rw [harg, step_flags_append r n (by decide)]
    rfl
  | outputAttached n v hv hequals =>
    have harg : ("-" ++ flagNames n ++ "o" ++ v).toList =
        '-' :: (List.replicate n 'v' ++ 'o' :: v.toList) := by
      simp [String.toList_append, toList_flagNames]
    refine meaningFrom_of_giveStep ?_ args
    rw [harg, step_flags_append r n (by decide), shortStep_output _ (by simpa using hv) hequals]
    rfl

variable {r} {r' : Request}

/-- Among plain arguments there is one input at most. -/
lemma plain_eq_run_iff {args : List String} :
    plain r args = .run r' ↔
      args = [] ∧ r = r' ∨ ∃ v, args = [v] ∧ r.give? .input v.toList = some r' := by
  match args with
  | [] => simp [plain]
  | [v] => cases hv : r.give? .input v.toList <;> simp [plain, hv]
  | v :: w :: args =>
    have hmisuse : plain r (v :: w :: args) = .misuse := by
      cases hv : r.give? .input v.toList with
      | none => simp [plain, hv]
      | some r₁ =>
        -- the second plain argument finds the input given
        have hinput : (r₁.get .input).isSome := Request.isSome_get_of_give? hv
        have hsecond : r₁.give? .input w.toList = none := by simp [Request.give?, hinput]
        simp [plain, hv, hsecond]
    simp [hmisuse]

/-- The end of a list of arguments makes a request exactly if what it says is gained. -/
lemma meaningFrom_closing_eq_run_iff (hr : r.verbosity ≤ greatestVerbosity) {closing : List String}
    {last : List (Slot × String)} (hclosing : Closes closing last) :
    meaningFrom r closing = .run r' ↔ r.Gains last 0 r' := by
  have hself : Meaning.run r = .run r' ↔ r.Gains [] 0 r' := by
    rw [Meaning.run.injEq]
    exact (Request.gains_refl hr).eq_iff
  cases hclosing with
  | nothing => exact hself
  | dashes => exact hself
  | @input v hv =>
    have hplain : meaningFrom r ["--", v] = plain r [v] := rfl
    rw [hplain, plain_eq_run_iff, ← Request.give?_eq_some_iff hr _ hv]
    simp

/-- Phrases and an end make a request exactly if what they say is gained, whatever their order. -/
lemma meaningFrom_phrases_eq_run_iff (hr : r.verbosity ≤ greatestVerbosity) (phrases : List Phrase)
    {closing : List String} {last : List (Slot × String)} (hclosing : Closes closing last) :
    meaningFrom r (phrases.flatMap Phrase.arguments ++ closing) = .run r' ↔
      r.Gains (phrases.filterMap Phrase.value? ++ last) (phrases.map Phrase.flagCount).sum r' := by
  induction phrases generalizing r with
  | nil => exact meaningFrom_closing_eq_run_iff hr hclosing
  | cons p phrases ih =>
    have hvalues : (p :: phrases).filterMap Phrase.value? ++ last =
        p.value?.toList ++ (phrases.filterMap Phrase.value? ++ last) := by
      cases hp : p.value? <;> simp [hp]
    rw [List.flatMap_cons, List.append_assoc, meaningFrom_phrase, meaningAfter_eq_run_iff, hvalues,
      List.map_cons, List.sum_cons, Request.gains_append_iff]
    refine exists_congr fun r₁ => ?_
    rw [Request.after?_eq_some_iff hr]
    exact and_congr_right fun h => ih h.verbosity_le

/-! ### Only phrases can be used -/

/-- What an argument does is accounted for by a phrase, or it does not make a request. -/
def Step.AccountedFor (arg : String) : Step → Prop
  | .done _ => ∃ p : Phrase, p.arguments = [arg]
  | .awaits _ _ => ∀ v, StandsAlone v → ∃ p : Phrase, p.arguments = [arg, v]
  | .endOfOptions => arg = "--"
  | .settled m => ∀ r, m ≠ .run r

variable {arg : String}

/-- A value that an argument holds itself is accounted for by a phrase of that argument. -/
lemma accountedFor_giveStep (s : Slot) {v : List Char}
    (h : String.ofList v ≠ "" → ∃ p : Phrase, p.arguments = [arg]) :
    (r.giveStep s v).AccountedFor arg := by
  unfold Request.giveStep
  cases hgive : r.give? s v with
  | none => exact fun _ => by simp
  | some r₁ =>
    refine h ?_
    simpa using Request.ne_nil_of_give? hgive

/-- The long names that are understood are those that are listed. -/
lemma mem_longNames_of_longSlot? {name : List Char} {s : Slot} (h : longSlot? name = some s) :
    (String.ofList name, s) ∈ longNames := by
  unfold longSlot? at h
  rw [mem_longNames_iff]
  split at h <;> simp_all

/-- What a long argument does is accounted for. -/
lemma accountedFor_longStep {cs : List Char} (harg : arg.toList = '-' :: '-' :: cs) :
    (longStep r cs).AccountedFor arg := by
  have hcs : cs.takeWhile (· != '=') ++ cs.dropWhile (· != '=') = cs :=
    List.takeWhile_append_dropWhile
  fun_cases longStep r cs
  case case1 name s hrest hslot =>
    have hname : arg = "--" ++ String.ofList name := by
      rw [hrest, List.append_nil] at hcs
      rw [← String.toList_inj, harg, ← hcs]
      simp [String.toList_append, name]
    exact fun v hv => ⟨.named _ s (mem_longNames_of_longSlot? hslot) v hv, by rw [hname]; rfl⟩
  case case2 name s c v hrest hslot =>
    have hc : c = '=' := by
      simpa [hrest] using List.head?_dropWhile_not (· != '=') cs
    have hname : arg = "--" ++ String.ofList name ++ "=" ++ String.ofList v := by
      rw [hrest, hc] at hcs
      rw [← String.toList_inj, harg, ← hcs]
      simp [String.toList_append, name]
    refine accountedFor_giveStep s fun hv => ?_
    exact ⟨.namedWith _ s (mem_longNames_of_longSlot? hslot) _ hv, by rw [hname]; rfl⟩
  case case3 name hrest _ hverbose =>
    have hname : arg = "--verbose" := by
      rw [hrest, List.append_nil] at hcs
      rw [← String.toList_inj, harg, ← hcs, ← String.toList_ofList (l := cs.takeWhile _), hverbose]
      rfl
    exact ⟨.verbose, by rw [hname]; rfl⟩
  case case4 => exact fun _ => by simp
  case case5 => exact fun _ => by simp
  case case6 => exact fun _ => by simp
  case case7 => exact fun _ => by simp

/-- What a short argument does is accounted for, flag by flag and then by its value. -/
lemma accountedFor_shortStep (n : ℕ) {cs : List Char}
    (harg : arg.toList = '-' :: (List.replicate n 'v' ++ cs)) (hne : n ≠ 0 ∨ cs ≠ []) :
    (shortStep r cs).AccountedFor arg := by
  -- the flags that have been read are kept in front, because flags and an output are one phrase
  fun_induction shortStep r cs generalizing n
  case case1 =>
    obtain ⟨n, rfl⟩ := Nat.exists_eq_succ_of_ne_zero (hne.resolve_right (not_not_intro rfl))
    exact ⟨.flags n, by simp [Phrase.arguments, ← String.toList_inj, harg, toList_flagNames]⟩
  case case2 cs ih =>
    refine ih (n + 1) ?_ (.inl n.succ_ne_zero)
    rw [harg, List.replicate_succ', List.append_assoc, List.singleton_append]
  case case3 => exact fun _ => by simp
  case case4 => exact fun _ => by simp
  case case5 =>
    refine fun v hv => ⟨.output n v hv, ?_⟩
    simp [Phrase.arguments, ← String.toList_inj, harg, toList_flagNames]
  case case6 v =>
    refine accountedFor_giveStep _ fun hv => ⟨.outputWith n _ hv, ?_⟩
    simp [Phrase.arguments, ← String.toList_inj, harg, toList_flagNames]
  case case7 v _ hequals =>
    have hhead : (String.ofList v).toList.head? ≠ some '=' := by
      rw [String.toList_ofList]
      intro h
      exact hequals v.tail (List.eq_cons_of_mem_head? h)
    refine accountedFor_giveStep _ fun hv => ⟨.outputAttached n _ hv hhead, ?_⟩
    simp [Phrase.arguments, ← String.toList_inj, harg, toList_flagNames]
  case case8 => exact fun _ => by simp

/-- Every argument is accounted for. -/
lemma accountedFor_step (r : Request) (arg : String) : (step r arg.toList).AccountedFor arg := by
  generalize hcs : arg.toList = cs
  fun_cases step r cs
  case case1 => exact String.toList_inj.1 hcs
  case case2 cs _ => exact accountedFor_longStep hcs
  case case3 c cs _ _ => exact accountedFor_shortStep 0 hcs (.inr (List.cons_ne_nil _ _))
  case case4 _ _ hdash =>
    have hlooks : looksLikeOption cs = false := by
      unfold looksLikeOption
      split
      · exact absurd rfl (hdash _ _)
      · rfl
    refine accountedFor_giveStep _ fun hv => ?_
    rw [← hcs, String.ofList_toList] at hv
    rw [← hcs] at hlooks
    exact ⟨.input arg ((standsAlone_iff arg).2 ⟨hv, hlooks⟩), rfl⟩

/-- Arguments consist of phrases and an end. -/
def Phrased (args : List String) : Prop :=
  ∃ (phrases : List Phrase) (closing : List String) (last : List (Slot × String)),
    Closes closing last ∧ args = phrases.flatMap Phrase.arguments ++ closing

/-- What may close a command line is made of phrases. -/
lemma Closes.phrased {closing : List String} {last : List (Slot × String)}
    (h : Closes closing last) : Phrased closing :=
  ⟨[], closing, last, h, rfl⟩

/-- A phrase may be put in front of phrases. -/
lemma Phrased.append_arguments {args : List String} (h : Phrased args) (p : Phrase) :
    Phrased (p.arguments ++ args) := by
  obtain ⟨phrases, closing, last, hclosing, rfl⟩ := h
  exact ⟨p :: phrases, closing, last, hclosing, by rw [List.flatMap_cons, List.append_assoc]⟩

/-- Behind two dashes there is the input or nothing, if a request is made. -/
lemma phrased_of_plain {args : List String} (h : plain r args = .run r') :
    Phrased ("--" :: args) := by
  rcases plain_eq_run_iff.1 h with ⟨rfl, -⟩ | ⟨v, rfl, hgive⟩
  · exact Closes.dashes.phrased
  · have hv : v ≠ "" := by simpa using Request.ne_nil_of_give? hgive
    exact (Closes.input hv).phrased

/-- Only arguments that consist of phrases and an end make a request. -/
lemma phrased_of_meaningFrom {args : List String} (h : meaningFrom r args = .run r') :
    Phrased args := by
  fun_induction meaningFrom r args
  case case1 => exact Closes.nothing.phrased
  case case2 r arg args r₁ hstep ih =>
    obtain ⟨p, hp⟩ : (Step.done r₁).AccountedFor arg := hstep ▸ accountedFor_step r arg
    have hphrased := (ih h).append_arguments p
    rwa [hp] at hphrased
  case case3 r arg args m hstep =>
    have hsettled : (Step.settled m).AccountedFor arg := hstep ▸ accountedFor_step r arg
    exact absurd h (hsettled r')
  case case4 r arg args hstep =>
    obtain rfl : Step.endOfOptions.AccountedFor arg := hstep ▸ accountedFor_step r arg
    exact phrased_of_plain h
  case case5 => cases h
  case case6 => cases h
  case case7 r arg r₁ s hstep v args hlooks r₂ hgive ih =>
    have hawaits : (Step.awaits r₁ s).AccountedFor arg := hstep ▸ accountedFor_step r arg
    have hne : v ≠ "" := by simpa using Request.ne_nil_of_give? hgive
    have hv : StandsAlone v := (standsAlone_iff v).2 ⟨hne, by simpa using hlooks⟩
    obtain ⟨p, hp⟩ := hawaits v hv
    have hphrased := (ih h).append_arguments p
    rwa [hp] at hphrased
  case case8 => cases h

/-- A request is made exactly by the arguments that spell its values. -/
lemma meaning_eq_run_iff {args : List String} :
    meaning args = .run r ↔
      ∃ n, Spells r.get n args ∧ r.verbosity = min n greatestVerbosity := by
  have hempty : ({} : Request).verbosity ≤ greatestVerbosity := Nat.zero_le _
  have hgains : ∀ given n, Request.Gains {} given n r ↔
      (∀ s, valuesFor s given = (r.get s).toList) ∧ r.verbosity = min n greatestVerbosity := by
    intro given n
    have hnone : ∀ s, ({} : Request).get s = none := fun s => by cases s <;> rfl
    simp [Request.Gains, hnone]
  constructor
  · intro h
    obtain ⟨phrases, closing, last, hclosing, rfl⟩ := phrased_of_meaningFrom h
    have hr := (hgains _ _).1 ((meaningFrom_phrases_eq_run_iff hempty phrases hclosing).1 h)
    exact ⟨_, ⟨phrases, closing, last, hclosing, rfl, hr.1, rfl⟩, hr.2⟩
  · rintro ⟨n, ⟨phrases, closing, last, hclosing, rfl, hvalues, rfl⟩, hflags⟩
    have hr := (hgains _ _).2 ⟨hvalues, hflags⟩
    exact (meaningFrom_phrases_eq_run_iff hempty phrases hclosing).2 hr

/-! ### Runs -/

/-- Outcomes that differ in their log lines only. -/
structure Outcome.Alike (o o' : Outcome) : Prop where
  status : o.status = o'.status
  output : o.output = o'.output
  errorText : o.errorText = o'.errorText
  files : o.files = o'.files

/-- What a run does depends on the values that are requested, not on the verbosity nor on the filter
for log lines. -/
lemma perform_eq_of_get_eq (h : ∀ s, r.get s = r'.get s) (files : FileTree) (input : ByteArray)
    (logFilter logFilter' : Option String) :
    perform ⟨files, input, logFilter⟩ r = perform ⟨files, input, logFilter'⟩ r' := by
  obtain ⟨i, ro, t, o, n⟩ := r
  obtain ⟨i', ro', t', o', n'⟩ := r'
  obtain rfl : i = i' := h .input
  obtain rfl : ro = ro' := h .root
  obtain rfl : t = t' := h .template
  obtain rfl : o = o' := h .output
  rfl

/-- Runs with the same values requested have outcomes that differ in their log lines only. -/
lemma alike_run {args args' : List String} (hargs : meaning args = .run r)
    (hargs' : meaning args' = .run r') (h : ∀ s, r.get s = r'.get s) (files : FileTree)
    (input : ByteArray) (logFilter logFilter' : Option String) :
    (run ⟨files, input, logFilter⟩ args).Alike (run ⟨files, input, logFilter'⟩ args') := by
  have hperform := perform_eq_of_get_eq h files input logFilter logFilter'
  constructor <;> simp only [run, hargs, hargs', hperform]

/-- Neither the spelling nor the order of the arguments matters, nor how many flags for log lines
are among them.  Arguments that spell a wish request just the values of the wish, with the flags
counted up to the greatest number, and no other arguments request them; and whatever the filter for
log lines, runs with two spellings of one wish differ in their log lines only. -/
theorem spelling_and_verbosity_do_not_matter :
    (∀ wish n args, Spells wish n args → meaning args = .run (Request.ofWish wish n)) ∧
      (∀ args r, meaning args = .run r →
        ∃ n, Spells r.get n args ∧ r = Request.ofWish r.get n) ∧
      ∀ wish n n' args args', Spells wish n args → Spells wish n' args' →
        ∀ files input logFilter logFilter',
          (run ⟨files, input, logFilter⟩ args).Alike (run ⟨files, input, logFilter'⟩ args') := by
  have hmeaning : ∀ wish n args, Spells wish n args →
      meaning args = .run (Request.ofWish wish n) := by
    intro wish n args h
    have hget : (Request.ofWish wish n).get = wish := funext (Request.get_ofWish wish n)
    exact meaning_eq_run_iff.2 ⟨n, by rwa [hget], rfl⟩
  refine ⟨hmeaning, fun args r h => ?_, fun wish n n' args args' h h' => ?_⟩
  · obtain ⟨n, hspells, hflags⟩ := meaning_eq_run_iff.1 h
    refine ⟨n, hspells, Request.eq_of_values (fun s => ?_) hflags⟩
    rw [Request.get_ofWish]
  · refine alike_run (hmeaning wish n args h) (hmeaning wish n' args' h') fun s => ?_
    rw [Request.get_ofWish, Request.get_ofWish]

/-- Joined short names in one list, an option with a value behind it and two dashes in the other. -/
theorem two_spellings_of_a_request :
    Spells (Request.get ⟨some "r.json", some "/w", none, some "-", 0⟩) 2
        ["-vvo-", "--root=/w", "r.json"] ∧
      Spells (Request.get ⟨some "r.json", some "/w", none, some "-", 0⟩) 1
        ["--output", "-", "-v", "--root", "/w", "--", "r.json"] ∧
      meaning ["-vvo-", "--root=/w", "r.json"] =
        .run ⟨some "r.json", some "/w", none, some "-", 2⟩ ∧
      (run ⟨⟨.directory [], [], rfl⟩, ByteArray.empty, some "trace"⟩
        ["-vvo-", "--root=/w", "r.json"]).Alike
        (run ⟨⟨.directory [], [], rfl⟩, ByteArray.empty, none⟩
          ["--output", "-", "-v", "--root", "/w", "--", "r.json"]) := by
  have hjoined : Spells (Request.get ⟨some "r.json", some "/w", none, some "-", 0⟩) 2
      ["-vvo-", "--root=/w", "r.json"] :=
    ⟨[.outputAttached 2 "-" (by decide) (by decide),
        .namedWith "root" .root (by decide) "/w" (by decide), .input "r.json" (by decide)],
      [], [], .nothing, rfl, fun s => by cases s <;> rfl, rfl⟩
  have hseparate : Spells (Request.get ⟨some "r.json", some "/w", none, some "-", 0⟩) 1
      ["--output", "-", "-v", "--root", "/w", "--", "r.json"] :=
    ⟨[.named "output" .output (by decide) "-" (by decide), .flags 0,
        .named "root" .root (by decide) "/w" (by decide)],
      ["--", "r.json"], [(.input, "r.json")], .input (by decide), rfl,
      fun s => by cases s <;> rfl, rfl⟩
  obtain ⟨hmeaning, -, hruns⟩ := spelling_and_verbosity_do_not_matter
  exact ⟨hjoined, hseparate, hmeaning _ 2 _ hjoined, hruns _ 2 1 _ _ hjoined hseparate _ _ _ _⟩

end DiagnosticPage.CommandLine
