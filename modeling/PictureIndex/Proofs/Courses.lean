import PictureIndex.Proofs.Effects
/-!
# The order of items makes no difference

A *course* is a list of items of which each was asked for or follows from an earlier one, and which
lacks nothing that was asked for or follows.  Which paths follow depends on the records that there
are when the turn of an item comes, so two courses for the same requests need not have the same
items.  Still they leave the same rows behind (`Situation.Course.row_eq`):

* At a path where something stands, only looking at the path itself counts, and doing so again makes
  no difference (`Situation.row_of_there`).  Whatever a course looks at there, every course does.
* Where nothing stands, items erase the row or leave it alone (`Situation.row_of_gone`).  An item of
  one course that another course lacks follows from a directory that is gone.  The other course has
  looked at the same directory, or at one above it, when the record had been erased already
  (`Situation.Course.mem_or_passed`).
-/

namespace PictureIndex

/-- Whether an item erases the record of its path if nothing stands there. -/
def Item.erases (y : Item) : Bool := y.work = .removeStale || y.path.hasExtension

/-- What is given before any item has its turn. -/
structure Situation where
  /-- What items know of the configuration. -/
  pipeline : Pipeline
  /-- What is found out about pictures. -/
  findings : Findings
  /-- The files. -/
  files : FileTree
  /-- Paths with these prefixes are not admitted. -/
  excluded : List String
  /-- The rows of all keys at the start. -/
  rows : String → Option Row
  /-- The items that are asked for. -/
  asked : Item → Prop

namespace Situation

variable (S : Situation)

/-- The row of a key after some items. -/
def row (items : List Item) (k : String) : Option Row :=
  items.foldl (fun before y =>
    if y.path.text = k then S.pipeline.effect S.findings S.files y before else before) (S.rows k)

/-- Whether an item follows from another one that has its turn after some others. -/
def Follows (before : List Item) (x y : Item) : Prop :=
  y.work = .examine ∧ y.path.isExcluded S.excluded = false ∧
    LeadsTo S.files (fun k => (S.row before k).isSome) x y.path

/-- Whether some items are all that were asked for and all that follow, in an order in which they
may have their turns. -/
structure Course (items : List Item) : Prop where
  /-- Each item was asked for or follows from an earlier one. -/
  fed : ∀ before y after, items = before ++ y :: after →
    S.asked y ∨ ∃ front x back, before = front ++ x :: back ∧ S.Follows front x y
  /-- No item is missing that was asked for. -/
  asked_mem : ∀ y, S.asked y → y ∈ items
  /-- No item is missing that follows. -/
  follows_mem : ∀ before x after, items = before ++ x :: after → ∀ y, S.Follows before x y →
    y ∈ items

/-- Whether no item is asked for whose text is that of another path at which something stands. -/
structure Unambiguous : Prop where
  /-- All names are UTF-8. -/
  textNames : S.files.HasTextNames
  /-- The paths asked for are UTF-8, or nothing stands where their texts lead. -/
  spelled : ∀ y, S.asked y → y.path.IsText ∨ S.files.kind? y.path.respelled = none

variable {S} {items before after : List Item} {x y : Item} {k : String}

@[simp] lemma row_nil : S.row [] k = S.rows k := rfl

lemma row_concat : S.row (items ++ [y]) k =
    if y.path.text = k then S.pipeline.effect S.findings S.files y (S.row items k)
    else S.row items k := by
  rw [row, List.foldl_append]
  rfl

/-! ## Where something stands -/

/-- Only looking at the path itself changes the row of a path at which something stands. -/
lemma effect_of_there (hy : y.path.IsText ∨ S.files.kind? y.path.respelled = none)
    (hthere : S.files.kind? (.ofText k) ≠ none) (htext : y.path.text = k) :
    y = ⟨.ofText k, .examine⟩ ∨
      ∀ before, S.pipeline.effect S.findings S.files y before = before := by
  subst htext
  rcases hy with htext | hmissing
  · have hpath : Path.ofText y.path.text = y.path := htext
    rw [hpath] at hthere ⊢
    obtain ⟨p, work⟩ := y
    cases work with
    | examine => exact .inl rfl
    | removeStale => exact .inr fun before => if_neg hthere
  · exact absurd hmissing hthere

/-- The row of a path at which something stands. -/
lemma row_of_there (hitems : ∀ y ∈ items, y.path.IsText ∨ S.files.kind? y.path.respelled = none)
    (hthere : S.files.kind? (.ofText k) ≠ none) : S.row items k =
      if ⟨.ofText k, .examine⟩ ∈ items then
        S.pipeline.rowAfter S.findings S.files (.ofText k) (S.rows k)
      else S.rows k := by
  induction items using List.reverseRecOn with
  | nil => simp
  | append_singleton items y ih =>
    rw [row_concat, ih fun y hy => hitems y (List.mem_append_left _ hy)]
    by_cases hlook : y = ⟨.ofText k, .examine⟩
    · subst hlook
      rw [if_pos (Path.text_ofText k)]
      simp only [List.mem_append, List.mem_singleton, or_true, if_true]
      show S.pipeline.rowAfter S.findings S.files _ _ = _
      split
      · exact S.pipeline.rowAfter_rowAfter ..
      · rfl
    · have hsame : (⟨.ofText k, .examine⟩ : Item) ∈ items ++ [y] ↔
          ⟨.ofText k, .examine⟩ ∈ items := by
        simp [Ne.symm hlook]
      simp only [hsame]
      by_cases htext : y.path.text = k
      · rw [if_pos htext]
        have hy := hitems y (by simp)
        exact ((effect_of_there hy hthere htext).resolve_left hlook) _
      · rw [if_neg htext]

/-! ## Where nothing stands -/

/-- An item erases the row of a path at which nothing stands, or leaves it alone. -/
lemma effect_of_gone (hnames : S.files.HasTextNames) (hgone : S.files.kind? (.ofText k) = none)
    (htext : y.path.text = k) (before : Option Row) :
    S.pipeline.effect S.findings S.files y before = if y.erases then none else before := by
  have hpath : S.files.kind? y.path = none := by
    by_contra hthere
    have hsame : Path.ofText y.path.text = y.path := FileTree.isText_of_kind? hnames hthere
    rw [← hsame, htext] at hthere
    exact hthere hgone
  obtain ⟨p, work⟩ := y
  cases work with
  | examine => simp [Pipeline.effect, Pipeline.rowAfter, hpath, Item.erases]
  | removeStale => simp [Pipeline.effect, hpath, Item.erases]

/-- The row of a path at which nothing stands. -/
lemma row_of_gone (hnames : S.files.HasTextNames) (hgone : S.files.kind? (.ofText k) = none) :
    S.row items k = if ∃ y ∈ items, y.path.text = k ∧ y.erases = true then none else S.rows k := by
  induction items using List.reverseRecOn with
  | nil => simp
  | append_singleton items y ih =>
    rw [row_concat, ih]
    by_cases htext : y.path.text = k
    · rw [if_pos htext, effect_of_gone hnames hgone htext]
      by_cases herases : y.erases = true
      · rw [if_pos herases, if_pos ⟨y, by simp, htext, herases⟩]
      · rw [if_neg herases]
        simp [htext, herases, or_and_right, exists_or]
    · rw [if_neg htext]
      simp [htext, or_and_right, exists_or]

/-! ## Two courses -/

lemma Course.spelled (h : S.Course items) (hS : S.Unambiguous) :
    ∀ y ∈ items, y.path.IsText ∨ S.files.kind? y.path.respelled = none := by
  intro y hy
  obtain ⟨before, after, hitems⟩ := List.append_of_mem hy
  rcases h.fed before y after hitems with hasked | ⟨front, x, back, -, -, -, hleads⟩
  · exact hS.spelled y hasked
  · left
    generalize y.path = q at hleads
    cases hleads with
    | entry hkind hq =>
      exact FileTree.isText_of_mem_list hS.textNames
        (FileTree.isText_of_kind? hS.textNames (by simp [hkind])) hq
    | below => exact Path.isText_ofText _

/-- Whether some items lack another one only since it would find its row erased: its path is gone,
an item erases its row, and a directory is looked at below which it would be listed. -/
structure Passed (S : Situation) (items : List Item) (k : String) (d : Path) : Prop where
  /-- Nothing stands at the path. -/
  gone : S.files.kind? (.ofText k) = none
  /-- An item erases its row. -/
  erased : ∃ x ∈ items, x.path.text = k ∧ x.erases = true
  /-- The directory is looked at. -/
  looked : ⟨d, .examine⟩ ∈ items
  /-- Nothing stands there either. -/
  directory_gone : S.files.kind? d = none
  /-- It has no extension. -/
  hasExtension_eq : d.hasExtension = false
  /-- The path would be listed. -/
  lists : d.Lists k

section

variable {items₁ items₂ : List Item}

/-- A directory that is gone lists a path in one course if it does so in another, unless it is
passed. -/
lemma Course.listed (h₁ : S.Course items₁) (h₂ : S.Course items₂) (hS : S.Unambiguous)
    {d : Path} (hlooked : ⟨d, .examine⟩ ∈ items₂) (hgone : S.files.kind? d = none)
    (hname : d.hasExtension = false) (hlists : d.Lists k)
    (hadmitted : (Path.ofText k).isExcluded S.excluded = false) {front back : List Item}
    (hfront : items₁ = front ++ back) (hrecorded : (S.row front k).isSome)
    (hearlier : ∀ y ∈ front, y ∈ items₂ ∨ ∃ k d, y = ⟨.ofText k, .examine⟩ ∧ S.Passed items₂ k d) :
    ⟨.ofText k, .examine⟩ ∈ items₂ ∨ S.Passed items₂ k d := by
  obtain ⟨before, after, hitems⟩ := List.append_of_mem hlooked
  -- the record may have been there when the directory was looked at
  by_cases hthen : (S.row before k).isSome
  · exact .inl (h₂.follows_mem before _ after hitems _
      ⟨rfl, hadmitted, .below hgone hname hlists hthen⟩)
  rw [Bool.not_eq_true, Option.isSome_eq_false_iff, Option.isNone_iff_eq_none] at hthen
  by_cases hthere : S.files.kind? (.ofText k) = none
  · rw [row_of_gone hS.textNames hthere] at hthen hrecorded
    split at hthen
    · rename_i herased
      obtain ⟨y, hy, herases⟩ := herased
      exact .inr ⟨hthere, ⟨y, hitems ▸ List.mem_append_left _ hy, herases⟩, hlooked, hgone, hname,
        hlists⟩
    · split at hrecorded
      · exact nomatch hrecorded
      · simp [hthen] at hrecorded
  · left
    have hspelled₁ : ∀ y ∈ front, _ := fun y hy =>
      h₁.spelled hS y (hfront ▸ List.mem_append_left _ hy)
    have hspelled₂ : ∀ y ∈ before, _ := fun y hy =>
      h₂.spelled hS y (hitems ▸ List.mem_append_left _ hy)
    rw [row_of_there hspelled₁ hthere] at hrecorded
    rw [row_of_there hspelled₂ hthere] at hthen
    by_cases hmem : (⟨.ofText k, .examine⟩ : Item) ∈ before
    · exact hitems ▸ List.mem_append_left _ hmem
    · rw [if_neg hmem] at hthen
      by_cases hmem' : (⟨.ofText k, .examine⟩ : Item) ∈ front
      · rcases hearlier _ hmem' with hmem | ⟨k', d', hsame, hpassed⟩
        · exact hmem
        · obtain rfl : k = k' := by
            have htext := congrArg (fun y : Item => y.path.text) hsame
            simpa using htext
          exact absurd hpassed.gone hthere
      · simp [hmem', hthen] at hrecorded

/-- **Whatever one course has another one has, too**, or it is passed there. -/
lemma Course.mem_or_passed (h₁ : S.Course items₁) (h₂ : S.Course items₂) (hS : S.Unambiguous) :
    ∀ y ∈ items₁, y ∈ items₂ ∨ ∃ k d, y = ⟨.ofText k, .examine⟩ ∧ S.Passed items₂ k d := by
  suffices hall : ∀ n before y after, before.length = n → items₁ = before ++ y :: after →
      y ∈ items₂ ∨ ∃ k d, y = ⟨.ofText k, .examine⟩ ∧ S.Passed items₂ k d by
    intro y hy
    obtain ⟨before, after, hitems⟩ := List.append_of_mem hy
    exact hall _ before y after rfl hitems
  intro n
  induction n using Nat.strongRecOn with
  | _ n ih =>
    rintro before y after rfl hitems
    rcases h₁.fed before y after hitems with
      hasked | ⟨front, x, back, rfl, hwork, hadmitted, hleads⟩
    · exact .inl (h₂.asked_mem y hasked)
    -- the item that led to this one came earlier, and so did those before it
    have hx : x ∈ items₂ ∨ ∃ k d, x = ⟨.ofText k, .examine⟩ ∧ S.Passed items₂ k d := by
      refine ih front.length (by simp) front x (back ++ y :: after) rfl ?_
      rw [hitems, List.append_assoc, List.cons_append]
    have hearlier : ∀ z ∈ front,
        z ∈ items₂ ∨ ∃ k d, z = ⟨.ofText k, .examine⟩ ∧ S.Passed items₂ k d := by
      intro z hz
      obtain ⟨u, v, rfl⟩ := List.append_of_mem hz
      refine ih u.length ?_ u z (v ++ x :: back ++ y :: after) rfl (by simp [hitems])
      simp only [List.length_append, List.length_cons]
      omega
    obtain ⟨q, work⟩ := y
    obtain rfl : work = .examine := hwork
    cases hleads with
    | @entry p _ hkind hq =>
      left
      have hmem : ⟨p, .examine⟩ ∈ items₂ := by
        refine hx.resolve_right ?_
        rintro ⟨k, d, hsame, hpassed⟩
        obtain rfl : p = .ofText k := congrArg Item.path hsame
        exact nomatch hpassed.gone.symm.trans hkind
      obtain ⟨u, v, hsplit⟩ := List.append_of_mem hmem
      exact h₂.follows_mem u _ v hsplit _ ⟨rfl, hadmitted, .entry hkind hq⟩
    | @below p k hkind hname hlists hk =>
      obtain ⟨d, hlooked, hgone, hnone, hlists⟩ : ∃ d, ⟨d, .examine⟩ ∈ items₂ ∧
          S.files.kind? d = none ∧ d.hasExtension = false ∧ d.Lists k := by
        rcases hx with hmem | ⟨k', d, hsame, hpassed⟩
        · exact ⟨p, hmem, hkind, hname, hlists⟩
        · obtain rfl : p = .ofText k' := congrArg Item.path hsame
          exact ⟨d, hpassed.looked, hpassed.directory_gone, hpassed.hasExtension_eq,
            hpassed.lists.trans hlists⟩
      have hfront : items₁ =
          front ++ (⟨p, .examine⟩ :: back ++ ⟨.ofText k, .examine⟩ :: after) := by
        rw [hitems, List.append_assoc]
        rfl
      exact (h₁.listed h₂ hS hlooked hgone hnone hlists hadmitted hfront hk hearlier).imp_right
        fun hpassed => ⟨k, d, rfl, hpassed⟩

/-- **All courses leave the same rows behind.** -/
theorem Course.row_eq (h₁ : S.Course items₁) (h₂ : S.Course items₂) (hS : S.Unambiguous)
    (k : String) : S.row items₁ k = S.row items₂ k := by
  have hsame {p : Path} {k : String} (h : p = .ofText k) : p.text = k := by
    rw [h, Path.text_ofText]
  by_cases hthere : S.files.kind? (.ofText k) = none
  · have herased {items items' : List Item} (h : S.Course items) (h' : S.Course items')
        (hex : ∃ y ∈ items, y.path.text = k ∧ y.erases = true) :
        ∃ y ∈ items', y.path.text = k ∧ y.erases = true := by
      obtain ⟨y, hy, htext, herases⟩ := hex
      rcases h.mem_or_passed h' hS y hy with hmem | ⟨k', d, rfl, hpassed⟩
      · exact ⟨y, hmem, htext, herases⟩
      · obtain rfl : k' = k := by simpa using htext
        exact hpassed.erased
    rw [row_of_gone hS.textNames hthere, row_of_gone hS.textNames hthere]
    exact if_congr ⟨herased h₁ h₂, herased h₂ h₁⟩ rfl rfl
  · have hlooked {items items' : List Item} (h : S.Course items) (h' : S.Course items')
        (hmem : (⟨.ofText k, .examine⟩ : Item) ∈ items) : ⟨.ofText k, .examine⟩ ∈ items' := by
      refine (h.mem_or_passed h' hS _ hmem).resolve_right ?_
      rintro ⟨k', d, hk, hpassed⟩
      obtain rfl : k = k' := by simpa using hsame (congrArg Item.path hk)
      exact hthere hpassed.gone
    rw [row_of_there (h₁.spelled hS) hthere, row_of_there (h₂.spelled hS) hthere]
    exact if_congr ⟨hlooked h₁ h₂, hlooked h₂ h₁⟩ rfl rfl

end

end Situation

end PictureIndex
