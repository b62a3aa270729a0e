import PlayableCards.Proofs.Command.Session

/-!
# What a session changes and tells

The output is the one file that a session changes, and it changes none if it cannot begin. If the
cards break off, the blocks of those before are left. Statistics are told of a run without faults
alone, and they tell of its cards.
-/

namespace PlayableCards
namespace Session

variable {options : Options} {stdin : Bytes} {d : Directory} {script : List ReadEvent} {s : Session}

theorem head?_statsText (stats : Stats) : (statsText stats).toList.head? = some 'R' := by
  simp [statsText, String.toList_join, Stats.report]

theorem head?_report (f : Failure) : f.report.toList.head? = some 'E' := by
  simp [Failure.report]

theorem report_ne_statsText (f : Failure) (stats : Stats) : f.report ≠ statsText stats := by
  intro h
  have hhead := head?_statsText stats
  rw [← h, head?_report] at hhead
  cases hhead

theorem statsText_ne_empty (stats : Stats) : "" ≠ statsText stats := by
  intro h
  have hhead := head?_statsText stats
  rw [← h] at hhead
  cases hhead

namespace Carried

variable {source : Source}

theorem of_fault {fault : StreamFault} (h : Carried options d (Export.whole source) s)
    (hfault : source.fault = some fault) :
    s.exit = 1 ∧ s.stderr = (Failure.processing options.cards fault).report := by
  have hresult : (Export.whole source).result = .error fault := by
    rw [Export.whole_result, hfault, Option.elim_some]
  exact ⟨by rw [h.exit, hresult, verdict], by rw [h.stderr, hresult, verdict]⟩

theorem of_no_fault (h : Carried options d (Export.whole source) s)
    (hfault : source.fault = none) :
    s.exit = 0 ∧ s.stderr
      = if options.stats then statsText (Export.counted Stats.zero source.cards) else "" := by
  have hresult : (Export.whole source).result
      = .ok (Export.counted Stats.zero source.cards) := by
    rw [Export.whole_result, hfault, Option.elim_none]
  exact ⟨by rw [h.exit, hresult, verdict], by rw [h.stderr, hresult, verdict]⟩

end Carried

namespace Course

theorem frame (h : Course options stdin d script s) {name : FileName}
    (hname : s.directory.content? name ≠ d.content? name) :
    options.output.bind d.target? = some name := by
  cases h with
  | unopened | uncreated => exact absurd rfl hname
  | carried hinput houtput hleft => exact hleft.frame name hname

theorem stdout_eq_nil (h : Course options stdin d script s) (houtput : options.output.isSome) :
    s.stdout = [] := by
  cases h with
  | unopened | uncreated => rfl
  | carried hinput hcreated hleft => exact hleft.stdout houtput

theorem of_not_begun (h : Course options stdin d script s) {fault : IoFault}
    (hfault : openInput d options.cards = .error fault
      ∨ createOutput d options.output = .error fault) :
    s.exit = 1 ∧ s.stdout = [] ∧ s.directory = d := by
  cases h with
  | unopened | uncreated => exact ⟨rfl, rfl, rfl⟩
  | carried hinput houtput hleft =>
    rcases hfault with hfault | hfault
    · cases hinput.symm.trans hfault
    · cases houtput.symm.trans hfault

theorem of_broken (h : Course options stdin d script s) {input : Input}
    (hinput : openInput d options.cards = .ok input)
    {made : Destination × Directory} (houtput : createOutput d options.output = .ok made)
    (hplace : inPlace options d = false) {fault : StreamFault}
    (hfault : (inputSource d stdin script input).fault = some fault) :
    s.exit = 1 ∧ s.stderr = (Failure.processing options.cards fault).report
      ∧ s.held options.output = some (Export.output (inputSource d stdin script input).cards) := by
  cases h with
  | unopened hinput' => cases hinput'.symm.trans hinput
  | uncreated _ houtput' => cases houtput'.symm.trans houtput
  | carried hinput' houtput' hleft =>
    cases hinput'.symm.trans hinput
    have hsource := inputSource_of_created stdin script hinput (created_of_ok houtput')
    rw [hplace, if_neg Bool.false_ne_true] at hsource
    rw [hsource] at hleft
    obtain ⟨hexit, hstderr⟩ := hleft.of_fault hfault
    exact ⟨hexit, hstderr, by rw [hleft.held, Export.whole_written]⟩

theorem exit_eq_zero_iff (h : Course options stdin d script s) :
    s.exit = 0 ↔ ∃ input made, openInput d options.cards = .ok input
      ∧ createOutput d options.output = .ok made
      ∧ (inputSource made.2 stdin script input).fault = none := by
  cases h with
  | unopened hinput =>
    refine iff_of_false Nat.one_ne_zero ?_
    rintro ⟨input, made, hinput', -⟩
    cases hinput.symm.trans hinput'
  | uncreated hinput houtput =>
    refine iff_of_false Nat.one_ne_zero ?_
    rintro ⟨input, made, -, houtput', -⟩
    cases houtput.symm.trans houtput'
  | @carried input destination created _ hinput houtput hleft =>
    constructor
    · intro hexit
      cases hfault : (inputSource created stdin script input).fault with
      | none => exact ⟨input, _, hinput, houtput, hfault⟩
      | some fault =>
        rw [(hleft.of_fault hfault).1] at hexit
        cases hexit
    · rintro ⟨input', made, hinput', houtput', hfault⟩
      cases hinput.symm.trans hinput'
      cases houtput.symm.trans houtput'
      exact (hleft.of_no_fault hfault).1

theorem stderr_cases (h : Course options stdin d script s) :
    (s.exit = 1 ∧ ∃ f : Failure, s.stderr = f.report)
      ∨ s.exit = 0 ∧ ∃ stats, s.stderr = if options.stats then statsText stats else "" := by
  cases h with
  | unopened | uncreated => exact .inl ⟨rfl, _, rfl⟩
  | @carried input destination created _ hinput houtput hleft =>
    cases hfault : (inputSource created stdin script input).fault with
    | some fault =>
      obtain ⟨hexit, hstderr⟩ := hleft.of_fault hfault
      exact .inl ⟨hexit, _, hstderr⟩
    | none =>
      obtain ⟨hexit, hstderr⟩ := hleft.of_no_fault hfault
      exact .inr ⟨hexit, _, hstderr⟩

theorem stderr_eq_statsText_iff (h : Course options stdin d script s) :
    (∃ stats, s.stderr = statsText stats) ↔ s.exit = 0 ∧ options.stats = true := by
  rcases h.stderr_cases with ⟨hexit, f, hstderr⟩ | ⟨hexit, stats, hstderr⟩
  · rw [hexit, hstderr]
    refine iff_of_false ?_ fun h => absurd h.1 Nat.one_ne_zero
    rintro ⟨stats, h⟩
    exact report_ne_statsText f stats h
  · rw [hexit, hstderr]
    cases options.stats with
    | true => exact iff_of_true ⟨stats, rfl⟩ ⟨rfl, rfl⟩
    | false =>
      refine iff_of_false ?_ fun h => absurd h.2 Bool.false_ne_true
      rintro ⟨stats, h⟩
      exact statsText_ne_empty stats h

theorem counts_of_exit_zero (h : Course options stdin d script s) (hexit : s.exit = 0)
    {input : Input} (hinput : openInput d options.cards = .ok input) {made : Destination × Directory}
    (houtput : createOutput d options.output = .ok made) :
    ∃ stats, s.stderr = (if options.stats then statsText stats else "")
      ∧ stats.Counts ((inputSource made.2 stdin script input).cards.map Card.outcome)
      ∧ stats.listed = stats.excluded
      ∧ (stats.excluded.map Prod.snd).sum = stats.excludedTotal
      ∧ stats.records = stats.blocks + stats.unnamed + stats.excludedTotal := by
  obtain ⟨input', made', hinput', houtput', hfault⟩ := h.exit_eq_zero_iff.mp hexit
  cases hinput.symm.trans hinput'
  cases houtput.symm.trans houtput'
  cases h with
  | unopened | uncreated => cases hexit
  | @carried _ _ created _ hinput' houtput' hleft =>
    cases hinput.symm.trans hinput'
    cases houtput.symm.trans houtput'
    obtain ⟨-, hstderr⟩ := hleft.of_no_fault hfault
    have hcounts := Export.counts_counted (inputSource created stdin script input).cards
      Stats.counts_zero
    exact ⟨_, hstderr, hcounts, Stats.listed_eq_excluded hcounts.sorted,
      (Tally.total_eq_sum _).symm, Export.balanced_counted _ rfl⟩

end Course

/-- **What an accepted command line brings about.** Only the file that its output names changes, and
nothing goes to the standard output beside it. If the input cannot be opened or the output created,
nothing changes at all. If the cards break off and were not to be replaced, what is left are the
blocks of those before. A run in which nothing fails ends well, and no other does. Statistics are
shown of such a run if they are asked for, and in no other case; they count the cards that were
read, list what was counted of each rule, and add up. All of this holds however the calls to read
go. -/
theorem effects_of_accepted {arguments : List String} {options : Options}
    (h : Request.ofArguments arguments = .run options) (stdin : Bytes) (d : Directory)
    (script : List ReadEvent) :
    let s := answer (Request.ofArguments arguments) stdin d script
    (∀ name, s.directory.content? name ≠ d.content? name →
      options.output.bind d.target? = some name)
    ∧ (options.output.isSome → s.stdout = [])
    ∧ (∀ fault, openInput d options.cards = .error fault
        ∨ createOutput d options.output = .error fault →
      s.exit = 1 ∧ s.stdout = [] ∧ s.directory = d)
    ∧ (∀ input made, openInput d options.cards = .ok input →
      createOutput d options.output = .ok made → inPlace options d = false →
      ∀ fault, (inputSource d stdin script input).fault = some fault →
        s.exit = 1 ∧ s.stderr = (Failure.processing options.cards fault).report
        ∧ s.held options.output = some (Export.output (inputSource d stdin script input).cards))
    ∧ (s.exit = 0 ↔ ∃ input made, openInput d options.cards = .ok input
      ∧ createOutput d options.output = .ok made
      ∧ (inputSource made.2 stdin script input).fault = none)
    ∧ ((∃ stats, s.stderr = statsText stats) ↔ s.exit = 0 ∧ options.stats = true)
    ∧ (s.exit = 0 → ∀ input made, openInput d options.cards = .ok input →
      createOutput d options.output = .ok made →
      ∃ stats, s.stderr = (if options.stats then statsText stats else "")
        ∧ stats.Counts ((inputSource made.2 stdin script input).cards.map Card.outcome)
        ∧ stats.listed = stats.excluded
        ∧ (stats.excluded.map Prod.snd).sum = stats.excludedTotal
        ∧ stats.records = stats.blocks + stats.unnamed + stats.excludedTotal) := by
  intro s
  have hcourse : Course options stdin d script s := by
    have hrun : s = run options stdin d script := by
      simp only [s, h, answer]
    exact hrun ▸ course_run options stdin d script
  exact ⟨fun _ => hcourse.frame, hcourse.stdout_eq_nil, fun _ => hcourse.of_not_begun,
    fun _ _ hinput houtput hplace _ => hcourse.of_broken hinput houtput hplace,
    hcourse.exit_eq_zero_iff, hcourse.stderr_eq_statsText_iff,
    fun hexit _ _ hinput houtput => hcourse.counts_of_exit_zero hexit hinput houtput⟩

/-- The cards `[{"name":"A"} x` of a file, which break off behind the first. They are read in two
pieces. -/
theorem effects_of_broken_cards : ∃ d s,
    d = ⟨[(["a"], [0x5B, 0x7B, 0x22, 0x6E, 0x61, 0x6D, 0x65, 0x22, 0x3A, 0x22, 0x41, 0x22, 0x7D,
        0x20, 0x78]), (["b"], [0x78])]⟩
      ∧ s = answer (Request.ofArguments ["--cards", "a", "-o", "./b", "--stats"]) [] d [.deliver 9]
      ∧ s.exit = 1 ∧ s.stdout = [] ∧ s.directory.content? ["a"] = d.content? ["a"]
      ∧ s.held (some "./b") = some (Utf8.ofString "Name: A\n---\n") := by
  have haccepted : Request.ofArguments ["--cards", "a", "-o", "./b", "--stats"]
      = .run ⟨"a", some "./b", true⟩ := by decide +kernel
  obtain ⟨hframe, hstdout, -, hbroken, -⟩ := effects_of_accepted haccepted []
    ⟨[(["a"], [0x5B, 0x7B, 0x22, 0x6E, 0x61, 0x6D, 0x65, 0x22, 0x3A, 0x22, 0x41, 0x22, 0x7D, 0x20,
      0x78]), (["b"], [0x78])]⟩ [.deliver 9]
  have hfault : (Export.whole (.ofBytes [0x5B, 0x7B, 0x22, 0x6E, 0x61, 0x6D, 0x65, 0x22, 0x3A, 0x22,
      0x41, 0x22, 0x7D, 0x20, 0x78] [.deliver 9])).result.toOption = none := by decide +kernel
  rw [Export.whole_result] at hfault
  cases hsource : (Source.ofBytes [0x5B, 0x7B, 0x22, 0x6E, 0x61, 0x6D, 0x65, 0x22, 0x3A, 0x22, 0x41,
      0x22, 0x7D, 0x20, 0x78] [.deliver 9]).fault with
  | none => simp [hsource, Except.toOption] at hfault
  | some fault =>
    obtain ⟨hexit, -, hheld⟩ := hbroken (.file ["a"]) (.file ["b"], _) rfl rfl rfl fault hsource
    refine ⟨_, _, rfl, rfl, hexit, hstdout rfl, ?_, hheld.trans ?_⟩
    · by_contra hchanged
      exact absurd (hframe ["a"] hchanged) (by decide +kernel)
    · rw [← Export.whole_written]
      decide +kernel

end Session
end PlayableCards
