import ClientGen.Proofs.Package.Comments
import ClientGen.Proofs.Package.Exports
import ClientGen.Proofs.TypeScript.Faults

/-!
# Comments for descriptions

What the document describes is said in comments in front of declarations and of the members of
interfaces. A description is made safe for its comment: the mark that ends a comment is broken up
wherever it stands, and nothing else is changed. Such a comment has one mark then, the one at its
end. A text that has lines of its own in a comment has no mark across the beginnings that these
lines get, or the ends that they lose.

## Main definitions

* `ClientGen.Package.ModelsModule.comments` : the comments for descriptions in the module of
  declarations.

## Main results

* `ClientGen.Text.endMarks_eq_zero_iff` : texts without marks.
* `ClientGen.TypeScript.commentText_eq_self_iff` : the texts that are safe as they are.
* `ClientGen.TypeScript.lines_docText` : the lines of a text inside a comment of several lines.
* `ClientGen.Package.ModelsModule.comments_sublist` : every description is commented on.
* `ClientGen.Package.marks_of_texts_and_descriptions` : texts in comments.
-/

namespace ClientGen

open Text

/-! ### Texts without marks -/

/-- No mark is counted in a text exactly if none stands in it. -/
theorem Text.endMarks_eq_zero_iff {cs : List Char} :
    endMarks cs = 0 ↔ ¬ "*/".toList <:+: cs := by
  induction cs with
  | nil => simp
  | cons c cs ih =>
    have hmark : "*/".toList <+: c :: cs ↔ c = '*' ∧ cs.head? = some '/' := by
      cases cs <;> simp [List.cons_prefix_cons, eq_comm]
    rw [List.infix_cons_iff, hmark, not_or, ← ih, endMarks, Nat.add_eq_zero_iff]
    simp

namespace TypeScript

theorem replaceAll_of_endMarks_eq_zero {cs : List Char} (h : endMarks cs = 0) :
    replaceAll "*/".toList brokenMark cs = cs := by
  induction cs with
  | nil => rfl
  | cons c cs ih =>
    rw [endMarks, Nat.add_eq_zero_iff] at h
    have hmark : ¬ (c = '*' ∧ cs.head? = some '/') := fun hmark => by simp [hmark] at h
    rw [replaceAll_cons hmark, ih h.2]

/-- Exactly the texts without marks stand in a comment as they are. -/
theorem commentText_eq_self_iff {text : String} :
    commentText text = text ↔ ¬ "*/".toList <:+: text.toList := by
  rw [← endMarks_eq_zero_iff]
  constructor
  · intro h
    rw [← h]
    exact endMarks_commentText text
  · intro h
    have hsame := replaceAll_of_endMarks_eq_zero h
    rw [brokenMark] at hsame
    rw [commentText, hsame, String.ofList_toList]

/-! ### Texts of several lines -/

/-- The text of the lines that a text has inside a comment of several lines. -/
def docText (text : String) : String := "\n".intercalate (docLines text)

variable {text line : String}

theorem docLines_ne_nil (text : String) : docLines text ≠ [] := by
  unfold docLines
  split
  · exact List.cons_ne_nil _ _
  · rename_i hne
    exact fun h => hne (List.map_eq_nil_iff.mp h)

/-- A text inside a comment of several lines has the lines that it is put together from. -/
theorem lines_docText (text : String) :
    lines (docText text).toList = (docLines text).map String.toList := by
  rw [docText, String.toList_intercalate]
  refine lines_intercalate (List.forall_mem_map.mpr fun line hline => ?_)
    (List.forall_mem_map.mpr fun line hline => ?_)
  all_goals obtain ⟨cs, hcs, -, rfl⟩ := exists_of_mem_docLines hline
  · exact List.IsPrefix.ne_nil (prefix_docLine cs) (by decide)
  · exact isLineEnd_of_mem_docLine hcs

/-- No mark is made where the lines of a text inside a comment meet. -/
theorem endMarks_docText (text : String) : endMarks (docText text).toList = 0 := by
  have hspacer : IsSpacer "\n" := by decide
  rw [docText, endMarks_intercalate hspacer, totalMarks_eq_zero]
  exact endMarks_of_mem_docLines text

/-! ### Comments of declarations -/

variable {indent description comment : String} {lines : List String}

/-- A description has a comment of one block, unless it is empty. -/
theorem mem_descriptionLines : comment ∈ descriptionLines indent description ↔
    description ≠ "" ∧ comment = indent ++ "/** " ++ commentText description ++ " */" := by
  unfold descriptionLines
  split
  · simp_all
  · simp_all

/-- The comment for a description has one mark, at its end. -/
theorem endMarks_description (hindent : endMarks (indent ++ "/**").toList = 0)
    (description : String) :
    endMarks (indent ++ "/** " ++ commentText description ++ " */").toList = 1 := by
  -- The blanks keep the description apart from the marks around it.
  have hspacer : IsSpacer " " := by decide
  have hclosing : endMarks "*/".toList = 1 := rfl
  have hparts : (indent ++ "/** " ++ commentText description ++ " */").toList =
      (indent ++ "/**").toList ++
        (" ".toList ++ ((commentText description).toList ++ (" ".toList ++ "*/".toList))) := by
    simp
  rw [hparts, hspacer.endMarks_between, hspacer.endMarks_between, hindent, endMarks_commentText,
    hclosing]

/-- The comments for the descriptions of a declaration and of its members. -/
def Declaration.comments (d : Declaration) : List String :=
  descriptionLines "" d.description ++
    d.properties.flatMap fun p => descriptionLines "  " p.description

/-- A comment of a declaration is the one for its description or for that of a member. -/
theorem Declaration.exists_of_mem_comments {d : Declaration} (h : comment ∈ d.comments) :
    ∃ indent description, endMarks (indent ++ "/**").toList = 0 ∧
      comment = indent ++ "/** " ++ commentText description ++ " */" := by
  rcases List.mem_append.mp h with hd | hp
  · exact ⟨"", d.description, rfl, (mem_descriptionLines.mp hd).2⟩
  · obtain ⟨p, -, hp⟩ := List.mem_flatMap.mp hp
    exact ⟨"  ", p.description, rfl, (mem_descriptionLines.mp hp).2⟩

theorem flatMap_sublist_flatten {α β : Type} {f : α → List β} {xs : List α} {ls : List (List β)}
    (h : List.Forall₂ (fun x l => List.Sublist (f x) l) xs ls) :
    List.Sublist (xs.flatMap f) ls.flatten := by
  induction h with
  | nil => exact List.Sublist.slnil
  | cons hx _ ih =>
    rw [List.flatMap_cons, List.flatten_cons]
    exact hx.append ih

/-- The comment for the description of a member is one of its lines. -/
theorem comments_sublist_propertyLines {p : Property} (h : p.lines = .ok lines) :
    List.Sublist (descriptionLines "  " p.description) lines := by
  obtain ⟨key, -, h⟩ := Except.bind_eq_ok.mp h
  rw [← Except.pure_eq_ok.mp h]
  exact List.sublist_append_left _ _

/-- The comments of a declaration are among its lines. -/
theorem Declaration.comments_sublist {d : Declaration} (h : d.lines = .ok lines) :
    List.Sublist d.comments lines := by
  unfold Declaration.lines at h
  unfold comments properties
  cases hbody : d.body with
  | «alias» t =>
    rw [hbody] at h
    rw [← Except.pure_eq_ok.mp h]
    exact (List.Sublist.refl _).append (List.nil_sublist _)
  | interface ps =>
    simp only [hbody, pure_bind] at h
    obtain ⟨members, hmembers, h⟩ := Except.bind_eq_ok.mp h
    rw [← Except.pure_eq_ok.mp h]
    have hps : List.Sublist (ps.flatMap fun p => descriptionLines "  " p.description)
        members.flatten :=
      flatMap_sublist_flatten
        ((mapM_eq_ok_iff.mp hmembers).imp fun _ _ => comments_sublist_propertyLines)
    have hbraces (first last : List String) :
        List.Sublist members.flatten (first ++ members.flatten ++ last) :=
      (List.sublist_append_right _ _).trans (List.sublist_append_left _ _)
    exact (List.Sublist.refl _).append (hps.trans (hbraces _ _))

end TypeScript

/-! ### Comments of the module -/

namespace Package

open TypeScript

variable {m : ModelsModule} {lines : List String} {comment : String}

/-- The comments for the descriptions of everything that the module declares. -/
def ModelsModule.comments (m : ModelsModule) : List String :=
  m.declarations.flatMap Declaration.comments

/-- The comments for descriptions are among the lines of the module, in this order. -/
theorem ModelsModule.comments_sublist (h : m.lines = .ok lines) :
    List.Sublist m.comments lines := by
  obtain ⟨parts, hparts, h⟩ := Except.bind_eq_ok.mp h
  rw [← Except.pure_eq_ok.mp h]
  refine List.Sublist.trans (flatMap_sublist_flatten ?_) (List.sublist_append_right _ _)
  refine (mapM_eq_ok_iff.mp hparts).imp fun d part hpart => ?_
  obtain ⟨ls, hls, hpart⟩ := Except.bind_eq_ok.mp hpart
  rw [← Except.pure_eq_ok.mp hpart]
  exact (Declaration.comments_sublist hls).cons ""

/-- A line of a text stands in it as it is. -/
theorem exists_unlines_eq {ls : List String} {l : String} (h : l ∈ ls) :
    ∃ before after, unlines ls = before ++ l ++ "\n" ++ after := by
  obtain ⟨before, after, rfl⟩ := List.append_of_mem h
  refine ⟨unlines before, unlines after, ?_⟩
  have hline : unlines (l :: after) = l ++ "\n" ++ unlines after := by
    simp [unlines]
  rw [unlines_append, hline]
  simp [String.append_assoc]

/-- **Texts in comments.** A text that is made safe for a comment has no mark that ends one, and is
the text itself if that has none. Over several lines of a comment, a text has at least one line;
each of them starts with an asterisk and has no line end in it, and no mark stands in all of them
together. Every comment that the module of declarations has for a description is one block with one
mark, the one at its end. -/
theorem marks_of_texts_and_descriptions (text : String) (m : ModelsModule) :
    (¬ "*/".toList <:+: (commentText text).toList ∧
      (¬ "*/".toList <:+: text.toList → commentText text = text)) ∧
    (docLines text ≠ [] ∧
      (∀ line ∈ docLines text, " *".toList <+: line.toList ∧
        ∀ c ∈ line.toList, isLineEnd c = false) ∧
      Text.lines (docText text).toList = (docLines text).map String.toList ∧
      ¬ "*/".toList <:+: (docText text).toList) ∧
    ∀ written, m.text = .ok written →
      ∃ lines, m.lines = .ok lines ∧ written = unlines lines ∧ List.Sublist m.comments lines ∧
        ∀ comment ∈ m.comments, endMarks comment.toList = 1 ∧
          (∃ indent description,
            comment = indent ++ "/** " ++ commentText description ++ " */") ∧
          ∃ before after, written = before ++ comment ++ "\n" ++ after := by
  refine ⟨⟨?_, commentText_eq_self_iff.mpr⟩, ⟨docLines_ne_nil text, fun line hline => ?_,
    lines_docText text, ?_⟩, fun written h => ?_⟩
  · exact endMarks_eq_zero_iff.mp (endMarks_commentText text)
  · obtain ⟨cs, hcs, -, rfl⟩ := exists_of_mem_docLines hline
    exact ⟨prefix_docLine cs, isLineEnd_of_mem_docLine hcs⟩
  · exact endMarks_eq_zero_iff.mp (endMarks_docText text)
  · obtain ⟨lines, hlines, rfl⟩ := ModelsModule.text_eq_ok.mp h
    have hcomments := ModelsModule.comments_sublist hlines
    refine ⟨lines, hlines, rfl, hcomments, fun comment hmem => ?_⟩
    obtain ⟨d, -, hd⟩ := List.mem_flatMap.mp hmem
    obtain ⟨indent, description, hindent, rfl⟩ := Declaration.exists_of_mem_comments hd
    exact ⟨endMarks_description hindent description, ⟨indent, description, rfl⟩,
      exists_unlines_eq (hcomments.subset hmem)⟩

/-- A module that declares an interface. Its description has a mark, and that of its member has one
between characters that a mark has. -/
def starredModels : ModelsModule where
  wrapper := "ApiResponse"
  declarations := [{
    name := "Star", description := "ends here */ not"
    body := .interface [{
      name := .text "id", mayMiss := false, type := .string, description := "**//" }] }]

theorem marks_of_texts_and_descriptions_starredModels :
    ∃ written, starredModels.text = .ok written ∧
      ∃ lines, starredModels.lines = .ok lines ∧ written = unlines lines ∧
        List.Sublist starredModels.comments lines ∧
        ∀ comment ∈ starredModels.comments, endMarks comment.toList = 1 := by
  have hwritten : ∃ written, starredModels.text = .ok written := by decide +kernel
  obtain ⟨written, hwritten⟩ := hwritten
  obtain ⟨-, -, hcomments⟩ := marks_of_texts_and_descriptions "**//" starredModels
  obtain ⟨lines, hlines, hunlines, hsublist, hmarks⟩ := hcomments written hwritten
  exact ⟨written, hwritten, lines, hlines, hunlines, hsublist,
    fun comment h => (hmarks comment h).1⟩

example : starredModels.comments = ["/** ends here *\\/ not */", "  /** **\\// */"] := by decide

end Package

end ClientGen
