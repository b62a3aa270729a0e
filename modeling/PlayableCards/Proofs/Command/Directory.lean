import PlayableCards.Command.Directory

/-!
# Files that are put

A file that is put is found where its path leads, and all others are what they were. What a path
leads to is what the directory holds under the name that the path comes to.
-/

namespace PlayableCards
namespace Directory

variable {d : Directory} {name : FileName} {path : String}

theorem content?_put_self (d : Directory) (name : FileName) (content : Bytes) :
    (d.put name content).content? name = some content := by
  obtain ⟨files⟩ := d
  simp only [content?, put]
  induction files with
  | nil => simp [putFile]
  | cons file files ih =>
    rw [putFile]
    by_cases hname : file.1 = name
    · rw [if_pos hname, List.lookup_cons_self]
    · rw [if_neg hname, List.lookup_cons, beq_false_of_ne (Ne.symm hname)]
      exact ih

theorem content?_put_of_ne (d : Directory) {other : FileName} (h : other ≠ name)
    (content : Bytes) : (d.put name content).content? other = d.content? other := by
  have hname : (other == name) = false := beq_false_of_ne h
  obtain ⟨files⟩ := d
  simp only [content?, put]
  induction files with
  | nil => simp [putFile, List.lookup_cons, hname]
  | cons file files ih =>
    rw [putFile]
    by_cases hfile : file.1 = name
    · rw [if_pos hfile, List.lookup_cons, List.lookup_cons, hfile, hname]
    · rw [if_neg hfile, List.lookup_cons, List.lookup_cons, ih]

theorem any_putFile (q : FileName → Bool) (name : FileName) (content : Bytes)
    (files : List (FileName × Bytes)) :
    (putFile name content files).any (fun file => q file.1)
      = (files.any (fun file => q file.1) || q name) := by
  induction files with
  | nil => simp [putFile]
  | cons file files ih =>
    rw [putFile]
    by_cases hfile : file.1 = name
    · rw [if_pos hfile, List.any_cons, List.any_cons, hfile, Bool.or_right_comm, Bool.or_self]
    · rw [if_neg hfile, List.any_cons, List.any_cons, ih, Bool.or_assoc]

theorem holds_put (d : Directory) (name : FileName) (content : Bytes) (dir : FileName) :
    (d.put name content).holds dir = (d.holds dir || (dir.isPrefixOf name && dir != name)) := by
  simp only [holds, put, any_putFile (fun file => dir.isPrefixOf file && dir != file),
    Bool.or_assoc]

theorem content?_of_follow (d : Directory) (here : FileName) (parts : List String) :
    (∀ name content, d.follow here parts = .file name content → d.content? name = some content)
      ∧ ∀ name, d.follow here parts = .vacant name → d.content? name = none := by
  fun_induction follow d here parts with
  | case2 here rest ih | case3 here rest ih | case4 here rest ih => exact ih
  | case5 here part rest _ _ _ name hholds ih => exact ih
  | case6 here part rest _ _ _ name hholds hlast =>
    rw [destination]
    cases hcontent : d.content? name with
    | some content =>
      refine ⟨fun name' content' h => ?_, fun name' h => by cases h⟩
      cases h
      exact hcontent
    | none =>
      by_cases hlong : isLong part = true
      · simp [hlong]
      · refine ⟨fun name' content' h => by simp [hlong] at h, fun name' h => ?_⟩
        simp only [hlong, Bool.false_eq_true, if_false, Place.vacant.injEq] at h
        exact h ▸ hcontent
  | _ => simp

theorem follow_put {here : FileName} {parts : List String}
    (h : (∃ old, d.follow here parts = .file name old) ∨ d.follow here parts = .vacant name)
    (content : Bytes) : (d.put name content).follow here parts = .file name content := by
  fun_induction follow d here parts with
  | case2 here rest ih | case3 here rest ih | case4 here rest ih =>
    rw [follow]
    exact ih h
  | case5 here part rest hempty hdot hdots name' hholds ih =>
    have hstays : (d.put name content).holds (here ++ [part]) = true := by
      rw [holds_put, Bool.or_eq_true]
      exact .inl hholds
    rw [follow.eq_5 _ _ _ _ hempty hdot hdots]
    simp only [hstays, if_true]
    exact ih h
  | case6 here part rest hempty hdot hdots name' hholds hlast =>
    have hname : here ++ [part] = name := by
      rw [destination] at h
      cases hcontent : d.content? name' with
      | some old => simpa [hcontent] using h
      | none => by_cases hlong : isLong part = true <;> simp_all [name']
    have hfile : (d.put name content).holds name = false := by
      rw [holds_put, bne_self_eq_false, Bool.and_false, Bool.or_false, ← hname]
      exact Bool.eq_false_iff.mpr hholds
    rw [follow.eq_5 _ _ _ _ hempty hdot hdots]
    simp only [hname, hfile, Bool.false_eq_true, if_false, hlast, if_true, destination,
      content?_put_self]
  | _ => simp at h

/-- Whether a path can be followed, and from where, does not depend on the files. -/
theorem locate_cases (path : String) :
    (∃ fault, ∀ d : Directory, d.locate path = .nowhere fault)
      ∨ ∃ here parts, ∀ d : Directory, d.locate path = d.follow here parts := by
  by_cases hlong : path.utf8ByteSize ≥ 4096
  · exact .inl ⟨.longName, fun d => if_pos hlong⟩
  · simp only [locate, if_neg hlong]
    cases path.toList with
    | nil => exact .inl ⟨.notFound, fun _ => rfl⟩
    | cons c cs =>
      by_cases hslash : c = '/'
      · subst hslash
        exact .inr ⟨.root, partsFrom [] cs, fun _ => rfl⟩
      · refine .inr ⟨[], partsFrom [] (c :: cs), fun d => ?_⟩
        split
        · rename_i heq
          cases heq
        · rename_i heq
          cases heq
          exact absurd rfl hslash
        · rfl

theorem content?_of_locate {content : Bytes} (h : d.locate path = .file name content) :
    d.content? name = some content := by
  rcases locate_cases path with ⟨fault, hlocate⟩ | ⟨here, parts, hlocate⟩
  · cases (hlocate d).symm.trans h
  · exact (content?_of_follow d here parts).1 name content ((hlocate d).symm.trans h)

theorem content?_of_vacant (h : d.locate path = .vacant name) : d.content? name = none := by
  rcases locate_cases path with ⟨fault, hlocate⟩ | ⟨here, parts, hlocate⟩
  · cases (hlocate d).symm.trans h
  · exact (content?_of_follow d here parts).2 name ((hlocate d).symm.trans h)

theorem locate_put (h : (∃ old, d.locate path = .file name old) ∨ d.locate path = .vacant name)
    (content : Bytes) : (d.put name content).locate path = .file name content := by
  rcases locate_cases path with ⟨fault, hlocate⟩ | ⟨here, parts, hlocate⟩
  · rw [hlocate] at h
    rcases h with ⟨old, h⟩ | h <;> cases h
  · rw [hlocate] at h ⊢
    exact follow_put h content

end Directory
end PlayableCards
