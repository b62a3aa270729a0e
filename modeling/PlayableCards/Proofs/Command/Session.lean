import PlayableCards.Command.Session
import PlayableCards.Proofs.Command.Directory
import PlayableCards.Proofs.Export.Faults

/-!
# What a session leaves

A session without faults leaves the blocks of its cards where they go. The output is emptied before
the input is read, so cards that are to be replaced by their own blocks are lost.
-/

namespace PlayableCards

namespace Export

/-- What is written for the bytes of an input, read by calls that go as `script` says. -/
def blocksOf (bytes : Bytes) (script : List ReadEvent) : Bytes :=
  (whole (.ofBytes bytes script)).sink.written.toList

theorem blocksOf_nil (script : List ReadEvent) : blocksOf [] script = [] := by
  rw [blocksOf, whole_written, Source.cards_of_empty, output_nil]

end Export

namespace Directory

def read? (d : Directory) (path : String) : Option Bytes :=
  match d.locate path with
  | .file _ content => some content
  | .directory | .vacant _ | .noDirectory _ | .nowhere _ => none

theorem read?_of_file {d : Directory} {path : String} {name : FileName} {content : Bytes}
    (h : d.locate path = .file name content) : d.read? path = some content := by
  rw [read?, h]

/-- The name of the file that a path leads to, be it there or not. -/
def target? (d : Directory) (path : String) : Option FileName :=
  match d.locate path with
  | .file name _ | .vacant name => some name
  | .directory | .noDirectory _ | .nowhere _ => none

theorem target?_of_leads {d : Directory} {path : String} {name : FileName}
    (h : (∃ old, d.locate path = .file name old) ∨ d.locate path = .vacant name) :
    d.target? path = some name := by
  rcases h with ⟨old, h⟩ | h <;> rw [target?, h]

end Directory

namespace Session

variable {options : Options} {stdin : Bytes} {d created : Directory} {script : List ReadEvent}

/-- The bytes that an input path names: those of a file, or of the standard input. -/
def named (d : Directory) (stdin : Bytes) (path : String) : Option Bytes :=
  if path = "-" then some stdin else d.read? path

/-- What a session has left where its blocks go. -/
def held (s : Session) (output : Option String) : Option Bytes :=
  output.elim (some s.stdout) s.directory.read?

def inPlace (options : Options) (d : Directory) : Bool :=
  options.cards != "-" &&
    match d.locate options.cards, options.output.map d.locate with
    | .file input _, some (.file output _) => input == output
    | _, _ => false

inductive Created (d : Directory) : Option String → Destination → Directory → Prop where
  | stdout : Created d none .stdout d
  | file {path : String} {name : FileName}
      (leads : (∃ old, d.locate path = .file name old) ∨ d.locate path = .vacant name) :
      Created d (some path) (.file name) (d.put name [])

theorem created_of_ok {output : Option String} {destination : Destination}
    (h : createOutput d output = .ok (destination, created)) :
    Created d output destination created := by
  cases output with
  | none =>
    cases h
    exact .stdout
  | some path =>
    simp only [createOutput] at h
    cases hlocate : d.locate path with
    | file name old =>
      simp only [hlocate, Except.ok.injEq, Prod.mk.injEq] at h
      obtain ⟨rfl, rfl⟩ := h
      exact .file (.inl ⟨old, hlocate⟩)
    | vacant name =>
      simp only [hlocate, Except.ok.injEq, Prod.mk.injEq] at h
      obtain ⟨rfl, rfl⟩ := h
      exact .file (.inr hlocate)
    | directory | noDirectory | nowhere => simp [hlocate] at h

inductive Opened (d : Directory) : String → Input → Prop where
  | stdin : Opened d "-" .stdin
  | file {path : String} {name : FileName} {content : Bytes} (hpath : path ≠ "-")
      (leads : d.locate path = .file name content) : Opened d path (.file name)
  | directory {path : String} (hpath : path ≠ "-") (leads : d.locate path = .directory) :
      Opened d path .directory

theorem opened_of_ok {path : String} {input : Input} (h : openInput d path = .ok input) :
    Opened d path input := by
  rw [openInput] at h
  by_cases hpath : path = "-"
  · rw [if_pos hpath] at h
    cases h
    rw [hpath]
    exact .stdin
  · rw [if_neg hpath] at h
    cases hlocate : d.locate path with
    | file name content =>
      simp only [hlocate, Except.ok.injEq] at h
      exact h ▸ .file hpath hlocate
    | directory =>
      simp only [hlocate, Except.ok.injEq] at h
      exact h ▸ .directory hpath hlocate
    | vacant | noDirectory | nowhere => simp [hlocate] at h

/-- The creation of the output empties the cards that are to be replaced, and leaves all others as
they were. -/
theorem inputSource_of_created (stdin : Bytes) (script : List ReadEvent) {input : Input}
    {destination : Destination}
    (hinput : openInput d options.cards = .ok input)
    (hcreated : Created d options.output destination created) :
    inputSource created stdin script input
      = if inPlace options d then .ofBytes [] script else inputSource d stdin script input := by
  obtain ⟨cards, output, stats⟩ := options
  cases opened_of_ok hinput with
  | stdin => simp [inputSource, inPlace]
  | directory hpath hlocate => simp [inputSource, inPlace, hlocate]
  | @file _ name content hpath hlocate =>
    have hcontent := Directory.content?_of_locate hlocate
    cases hcreated with
    | stdout => simp [inPlace, hlocate]
    | @file path other leads =>
      by_cases hsame : name = other
      · subst hsame
        rcases leads with ⟨old, hold⟩ | hvacant
        · simp [inputSource, inPlace, hpath, hlocate, hold, Directory.content?_put_self]
        · cases hcontent.symm.trans (Directory.content?_of_vacant hvacant)
      · have hplace : inPlace ⟨cards, some path, stats⟩ d = false := by
          rcases leads with ⟨old, hold⟩ | hvacant
          · simp [inPlace, hlocate, hold, hsame]
          · simp [inPlace, hlocate, hvacant]
        simp [inputSource, hplace, Directory.content?_put_of_ne d hsame]

theorem source_of_open (stdin : Bytes) (script : List ReadEvent) {input : Input}
    (hinput : openInput d options.cards = .ok input)
    {destination : Destination} (hcreated : Created d options.output destination created) :
    (∃ bytes, named d stdin options.cards = some bytes ∧ inputSource created stdin script input
        = .ofBytes (if inPlace options d then [] else bytes) script)
      ∨ inputSource created stdin script input = .ofBytes [] [.fail .isDirectory] := by
  rw [inputSource_of_created stdin script hinput hcreated]
  obtain ⟨cards, output, stats⟩ := options
  cases opened_of_ok hinput with
  | stdin => exact .inl ⟨stdin, rfl, by split <;> rfl⟩
  | directory hpath hlocate => exact .inr (by simp [inputSource, inPlace, hlocate])
  | @file _ name content hpath hlocate =>
    refine .inl ⟨content, ?_, ?_⟩
    · rw [named, if_neg hpath, Directory.read?_of_file hlocate]
    · rw [inputSource, Directory.content?_of_locate hlocate, Option.getD_some]
      split <;> rfl

structure Carried (options : Options) (d : Directory) (e : Export) (s : Session) : Prop where
  exit : s.exit = (verdict options e.result).1
  stderr : s.stderr = (verdict options e.result).2
  held : s.held options.output = some e.sink.written.toList
  stdout : options.output.isSome → s.stdout = []
  frame : ∀ name, s.directory.content? name ≠ d.content? name →
    options.output.bind d.target? = some name

/-- How a session goes: the input cannot be opened, the output cannot be created, or the one is
exported to the other. -/
inductive Course (options : Options) (stdin : Bytes) (d : Directory) (script : List ReadEvent) :
    Session → Prop where
  | unopened {fault : IoFault} (hinput : openInput d options.cards = .error fault) :
      Course options stdin d script (failed (.opening options.cards fault) d)
  | uncreated {input : Input} {fault : IoFault} (hinput : openInput d options.cards = .ok input)
      (houtput : createOutput d options.output = .error fault) :
      Course options stdin d script (failed (.creating (options.output.getD "") fault) d)
  | carried {input : Input} {destination : Destination} {created : Directory} {s : Session}
      (hinput : openInput d options.cards = .ok input)
      (houtput : createOutput d options.output = .ok (destination, created))
      (hleft : Carried options d (Export.whole (inputSource created stdin script input)) s) :
      Course options stdin d script s

theorem course_run (options : Options) (stdin : Bytes) (d : Directory) (script : List ReadEvent) :
    Course options stdin d script (run options stdin d script) := by
  rw [run]
  cases hinput : openInput d options.cards with
  | error fault => exact .unopened hinput
  | ok input =>
    cases houtput : createOutput d options.output with
    | error fault => exact .uncreated hinput houtput
    | ok output =>
      obtain ⟨destination, created⟩ := output
      refine .carried hinput houtput ?_
      have hcreated := created_of_ok houtput
      obtain ⟨cards, output, stats⟩ := options
      cases hcreated with
      | stdout => exact ⟨rfl, rfl, rfl, nofun, fun name h => absurd rfl h⟩
      | @file path name leads =>
        refine ⟨rfl, rfl, ?_, fun _ => rfl, fun other hother => ?_⟩
        · have hput := Directory.locate_put leads []
          exact Directory.read?_of_file (Directory.locate_put (.inl ⟨[], hput⟩) _)
        · by_contra hname
          have hne : other ≠ name := by
            rintro rfl
            exact hname (Directory.target?_of_leads leads)
          refine hother ?_
          simp only [Directory.content?_put_of_ne _ hne]

theorem run_of_exit_zero (h : (run options stdin d script).exit = 0) :
    ∃ input destination created stats, openInput d options.cards = .ok input
      ∧ Created d options.output destination created
      ∧ (Export.whole (inputSource created stdin script input)).result = .ok stats
      ∧ (run options stdin d script).held options.output
        = some (Export.whole (inputSource created stdin script input)).sink.written.toList := by
  have hcourse := course_run options stdin d script
  generalize run options stdin d script = s at h hcourse ⊢
  cases hcourse with
  | unopened hinput | uncreated hinput houtput => simp [failed] at h
  | @carried input destination created _ hinput houtput hleft =>
    cases hresult : (Export.whole (inputSource created stdin script input)).result with
    | ok stats => exact ⟨input, destination, created, stats, hinput, created_of_ok houtput, hresult,
        hleft.held⟩
    | error fault => simp [hleft.exit, hresult, verdict] at h

/-- **What a session without faults leaves** are the blocks of the bytes that its input named when
it began, whatever calls it takes to read them, unless they were to go where these bytes were: then
nothing is left. -/
theorem held_of_exit_zero (h : (run options stdin d script).exit = 0) :
    ∃ bytes, named d stdin options.cards = some bytes
      ∧ (run options stdin d script).held options.output
        = some (if inPlace options d then [] else Export.blocksOf bytes script)
      ∧ ((run options stdin d script).held options.output = some (Export.blocksOf bytes script)
        ↔ (inPlace options d → Export.blocksOf bytes script = [])) := by
  obtain ⟨input, destination, created, stats, hinput, hcreated, hresult, hheld⟩ :=
    run_of_exit_zero h
  rcases source_of_open stdin script hinput hcreated with ⟨bytes, hnamed, hsource⟩ | hsource
  · have hleft : (run options stdin d script).held options.output
        = some (if inPlace options d then [] else Export.blocksOf bytes script) := by
      rw [hheld, hsource, ← Export.blocksOf]
      cases inPlace options d with
      | true => rw [if_pos rfl, if_pos rfl, Export.blocksOf_nil]
      | false => rfl
    refine ⟨bytes, hnamed, hleft, ?_⟩
    rw [hleft]
    cases inPlace options d with
    | true =>
      rw [if_pos rfl, Option.some.injEq]
      exact ⟨fun h _ => h.symm, fun h => (h rfl).symm⟩
    | false => exact iff_of_true rfl (fun h => absurd h Bool.false_ne_true)
  · have hfails : (Export.whole (.ofBytes [] [.fail .isDirectory])).result.toOption = none := by
      decide +kernel
    rw [hsource] at hresult
    rw [hresult] at hfails
    cases hfails

/-- The cards `[{"name":"A"}]` of a file, with another file for their block. They are read in two
pieces. -/
theorem held_of_named_card : ∃ d s,
    d = ⟨[(["a"], [0x5B, 0x7B, 0x22, 0x6E, 0x61, 0x6D, 0x65, 0x22, 0x3A, 0x22, 0x41, 0x22, 0x7D,
        0x5D]), (["b"], [0x78])]⟩
      ∧ s = run ⟨"a", some "./b", false⟩ [] d [.deliver 6, .interrupt] ∧ s.exit = 0
      ∧ s.held (some "./b") = some (Utf8.ofString "Name: A\n---\n") := by
  have hexit : (run ⟨"a", some "./b", false⟩ [] ⟨[(["a"], [0x5B, 0x7B, 0x22, 0x6E, 0x61, 0x6D, 0x65,
      0x22, 0x3A, 0x22, 0x41, 0x22, 0x7D, 0x5D]), (["b"], [0x78])]⟩ [.deliver 6, .interrupt]).exit
        = 0 := by decide +kernel
  obtain ⟨bytes, hnamed, hheld, -⟩ := held_of_exit_zero hexit
  have hbytes : named ⟨[(["a"], [0x5B, 0x7B, 0x22, 0x6E, 0x61, 0x6D, 0x65, 0x22, 0x3A, 0x22, 0x41,
      0x22, 0x7D, 0x5D]), (["b"], [0x78])]⟩ [] "a" = some [0x5B, 0x7B, 0x22, 0x6E, 0x61, 0x6D, 0x65,
      0x22, 0x3A, 0x22, 0x41, 0x22, 0x7D, 0x5D] := by decide +kernel
  cases hnamed.symm.trans hbytes
  exact ⟨_, _, rfl, rfl, hexit, hheld.trans (by decide +kernel)⟩

/-- The same cards, to be replaced by their block: neither is left, and no fault is told. -/
theorem lost_in_place : ∃ d s bytes,
    d = ⟨[(["a"], [0x5B, 0x7B, 0x22, 0x6E, 0x61, 0x6D, 0x65, 0x22, 0x3A, 0x22, 0x41, 0x22, 0x7D,
        0x5D])]⟩
      ∧ s = run ⟨"a", some "a", false⟩ [] d ∧ s.exit = 0 ∧ named d [] "a" = some bytes
      ∧ Export.blocksOf bytes [] = Utf8.ofString "Name: A\n---\n" ∧ s.held (some "a") = some [] :=
  ⟨_, _, _, rfl, rfl, by decide +kernel, rfl, by decide +kernel, by decide +kernel⟩

end Session
end PlayableCards
