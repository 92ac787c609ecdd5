import ClientTraits.Files.Tree

/-!
# Places in a tree of files

A place in a tree is told by the names that lead to it from the top; `FileTree.itemAt?` is what
stands there. Many paths lead to one place, and a path that leads nowhere may lead somewhere when a
folder was made, so that the effects of writing are stated for places:

* making folders puts folders where nothing was, and changes nothing else
  (`Disk.addsFolders_makeFolder`);
* writing changes one place, and the path leads there afterwards (`Disk.write?_spec`).

## Proof shape

Both come down to one lemma about `put?`, by induction along the names (`itemAt?_put?`). That the
path still leads to the written file is an induction along its segments, with the trails in the old
and in the new tree side by side (`follow_of_keepsFolders`).
-/

namespace ClientTraits

namespace FileTree

/-! ### Places -/

/-- What stands at a place, without what is in it. -/
inductive Item
  | file (text : Option String)
  | folder
  deriving DecidableEq, Repr

/-- What a tree is at its top. -/
def item : FileTree → Item
  | file text => .file text
  | folder _ => .folder

/-- The entry of a name, in a folder. -/
def entry? (name : String) : FileTree → Option FileTree
  | file _ => none
  | folder entries => entries.lookup name

/-- The tree at a place. -/
def at? (t : FileTree) : List String → Option FileTree
  | [] => some t
  | name :: rest => (t.entry? name).bind fun next => next.at? rest

/-- What stands at a place. -/
def itemAt? (t : FileTree) (names : List String) : Option Item :=
  (t.at? names).map item

theorem at?_append (t : FileTree) (names more : List String) :
    t.at? (names ++ more) = (t.at? names).bind fun next => next.at? more := by
  induction names generalizing t with
  | nil => rfl
  | cons name rest ih =>
      rw [List.cons_append, at?, at?]
      cases t.entry? name with
      | none => rfl
      | some next => exact ih next

@[simp] theorem itemAt?_nil (t : FileTree) : t.itemAt? [] = some t.item := rfl

theorem itemAt?_cons (t : FileTree) (name : String) (rest : List String) :
    t.itemAt? (name :: rest) = (t.entry? name).bind fun next => next.itemAt? rest := by
  rw [itemAt?, at?]
  cases t.entry? name <;> rfl

theorem itemAt?_append (t : FileTree) (names more : List String) :
    t.itemAt? (names ++ more) = (t.at? names).bind fun next => next.itemAt? more := by
  rw [itemAt?, at?_append]
  cases t.at? names <;> rfl

/-- At the top of a folder there is a folder, and nowhere else but there if it is empty. -/
theorem itemAt?_emptyFolder (names : List String) :
    (folder []).itemAt? names = if names = [] then some .folder else none := by
  cases names <;> rfl

theorem itemAt?_file (text : Option String) (names : List String) :
    (file text).itemAt? names = if names = [] then some (.file text) else none := by
  cases names <;> rfl

theorem item_eq_folder_iff {t : FileTree} : t.item = .folder ↔ ∃ entries, t = folder entries := by
  cases t <;> simp [item]

theorem item_eq_file_iff {t : FileTree} {text : Option String} :
    t.item = .file text ↔ t = file text := by
  cases t <;> simp [item]

/-- What stands at an entry of a folder. -/
theorem itemAt?_entry {t : FileTree} {names : List String} {entries : List (String × FileTree)}
    (h : t.at? names = some (folder entries)) (name : String) :
    t.itemAt? (names ++ [name]) = (entries.lookup name).map item := by
  rw [itemAt?_append, h, Option.bind_some, itemAt?_cons, entry?]
  cases entries.lookup name <;> rfl

/-- Behind anything but a folder there is nothing. -/
theorem itemAt?_append_of_not_folder {t : FileTree} {names more : List String}
    (h : t.itemAt? names ≠ some .folder) (hmore : more ≠ []) :
    t.itemAt? (names ++ more) = none := by
  rw [itemAt?_append]
  rw [itemAt?] at h
  cases hat : t.at? names with
  | none => rfl
  | some next =>
      cases next with
      | file text => exact (itemAt?_file text more).trans (if_neg hmore)
      | folder entries => exact absurd (by rw [hat]; rfl) h

/-! ### Putting a tree in a place -/

theorem lookup_cons_eq_ite (name other : String) (t : FileTree)
    (rest : List (String × FileTree)) :
    ((name, t) :: rest).lookup other = if other = name then some t else rest.lookup other := by
  by_cases h : other = name
  · simp [h]
  · simp [List.lookup_cons, beq_false_of_ne h, h]

theorem lookup_setEntry (name other : String) (t : FileTree) (entries : List (String × FileTree)) :
    (setEntry name t entries).lookup other =
      if other = name then some t else entries.lookup other := by
  induction entries with
  | nil => exact lookup_cons_eq_ite name other t []
  | cons first rest ih =>
      obtain ⟨n, old⟩ := first
      by_cases hn : n = name
      · subst hn
        by_cases h : other = n <;> simp [setEntry, lookup_cons_eq_ite, h]
      · rw [setEntry, if_neg hn, lookup_cons_eq_ite, lookup_cons_eq_ite, ih]
        by_cases h : other = n
        · have hname : other ≠ name := fun hname => hn (h.symm.trans hname)
          rw [if_pos h, if_neg hname, if_pos h]
        · rw [if_neg h, if_neg h]

/-- What stands anywhere after a tree was put in a place: below the place what is in that tree, and
elsewhere what was there before. -/
theorem itemAt?_put? {t t' new : FileTree} {names : List String}
    (h : t.put? names new = some t') :
    (∀ more, t'.itemAt? (names ++ more) = new.itemAt? more) ∧
      ∀ names', ¬ names <+: names' → t'.itemAt? names' = t.itemAt? names' := by
  fun_induction put? t names new generalizing t' with
  | case1 t =>
      cases h
      exact ⟨fun _ => rfl, fun _ hnot => absurd List.nil_prefix hnot⟩
  | case2 name rest text => cases h
  | case3 name entries =>
      cases h
      refine ⟨fun more => ?_, fun names' hnot => ?_⟩
      · rw [List.singleton_append, itemAt?_cons, entry?, lookup_setEntry, if_pos rfl]
        rfl
      · cases names' with
        | nil => rfl
        | cons name' rest' =>
            have hne : name' ≠ name := fun hname => hnot ⟨rest', by rw [hname]; rfl⟩
            rw [itemAt?_cons, itemAt?_cons, entry?, lookup_setEntry, if_neg hne]
            rfl
  | case4 name next rest entries ih =>
      simp only [Option.bind_eq_bind, Option.bind_eq_some_iff, Option.some.injEq] at h
      obtain ⟨old, hlookup, inner, hinner, rfl⟩ := h
      obtain ⟨hbelow, helse⟩ := ih old hinner
      refine ⟨fun more => ?_, fun names' hnot => ?_⟩
      · rw [List.cons_append, itemAt?_cons, entry?, lookup_setEntry, if_pos rfl]
        exact hbelow more
      · cases names' with
        | nil => rfl
        | cons name' rest' =>
            rw [itemAt?_cons, itemAt?_cons, entry?, entry?, lookup_setEntry]
            by_cases hname : name' = name
            · subst hname
              rw [if_pos rfl, hlookup]
              exact helse rest' fun hpre => hnot (List.cons_prefix_cons.mpr ⟨rfl, hpre⟩)
            · rw [if_neg hname]

/-! ### Following a path -/

theorem ofSegment?_eq_name_iff {segment name : String} :
    Component.ofSegment? segment = some (.name name) ↔ segment = name ∧ IsEntryName segment := by
  rw [Component.ofSegment?, IsEntryName]
  by_cases hempty : segment = ""
  · simp [hempty]
  · by_cases hpoint : segment = "."
    · simp [hpoint]
    · by_cases hup : segment = ".."
      · simp [hup]
      · simp [hempty, hpoint, hup]

theorem isEntryName_of_not {segment : String}
    (hstay : ¬ (segment = "" || segment = ".") = true) (hup : segment ≠ "..") :
    IsEntryName segment := by
  simpa [IsEntryName, hup] using hstay

section Steps

variable (trail : List (String × FileTree)) (entries : List (String × FileTree))
  (rest : List String)

theorem follow_stay {segment : String} (h : (segment = "" || segment = ".") = true) :
    follow trail (folder entries) (segment :: rest) = follow trail (folder entries) rest := by
  cases trail <;> rw [follow, if_pos h]

theorem follow_up (name : String) (above : FileTree) :
    follow ((name, above) :: trail) (folder entries) (".." :: rest) = follow trail above rest := by
  rw [follow, if_neg (by decide), if_pos rfl]

theorem follow_up_top :
    follow [] (folder entries) (".." :: rest) = follow [] (folder entries) rest := by
  rw [follow, if_neg (by decide), if_pos rfl]

theorem follow_enter {segment : String} (h : IsEntryName segment) :
    follow trail (folder entries) (segment :: rest) =
      (entries.lookup segment).bind fun next =>
        follow ((segment, folder entries) :: trail) next rest := by
  obtain ⟨hempty, hpoint, hup⟩ := h
  cases trail <;> rw [follow, if_neg (by simp [hempty, hpoint]), if_neg hup] <;>
    cases entries.lookup segment <;> rfl

end Steps

/-- The trail leads from the top of the tree to a part of it. -/
inductive Trail (t : FileTree) : List (String × FileTree) → FileTree → Prop
  | top : Trail t [] t
  | enter {trail : List (String × FileTree)} {entries : List (String × FileTree)} {name : String}
      {next : FileTree} (above : Trail t trail (folder entries))
      (hnext : entries.lookup name = some next) : Trail t ((name, folder entries) :: trail) next

/-- The names that a trail entered, the first one first. -/
def place (trail : List (String × FileTree)) : List String :=
  (trail.map Prod.fst).reverse

theorem place_cons (entered : String × FileTree) (trail : List (String × FileTree)) :
    place (entered :: trail) = place trail ++ [entered.1] := by
  simp [place]

/-- Where one segment leads from the end of a trail. -/
def step? : List (String × FileTree) × FileTree → String →
    Option (List (String × FileTree) × FileTree)
  | (_, file _), _ => none
  | (trail, folder entries), segment =>
    if segment = "" || segment = "." then some (trail, folder entries)
    else if segment = ".." then
      match trail with
      | [] => some ([], folder entries)
      | (_, above) :: trail => some (trail, above)
    else (entries.lookup segment).map fun next => ((segment, folder entries) :: trail, next)

/-- Segments are followed one after the other. -/
theorem follow_eq_foldlM (trail : List (String × FileTree)) (here : FileTree)
    (segments : List String) :
    follow trail here segments =
      (segments.foldlM step? (trail, here)).map fun behind => (place behind.1, behind.2) := by
  fun_induction follow trail here segments with
  | case1 trail here => rfl
  | case2 => rfl
  | case3 trail segment rest entries hstay ih => simp [step?, hstay, ih]
  | case4 rest entries hstay ih => simp [step?, ih]
  | case5 rest entries hstay above name trail ih => simp [step?, ih]
  | case6 trail segment rest entries hstay hup hnone => simp [step?, hstay, hup, hnone]
  | case7 trail segment rest entries hstay hup next hnext ih => simp [step?, hstay, hup, hnext, ih]

/-- A trail ends at its place. -/
theorem Trail.at?_place {t here : FileTree} {trail : List (String × FileTree)}
    (h : Trail t trail here) : t.at? (place trail) = some here := by
  induction h with
  | top => rfl
  | @enter trail entries name next above hnext ih =>
      rw [place_cons, at?_append, ih]
      show (entries.lookup name).bind some = some next
      rw [hnext]
      rfl

/-- A path ends at the place that is told. -/
theorem at?_of_follow {t here found : FileTree} {trail : List (String × FileTree)}
    {segments names : List String} (htrail : Trail t trail here)
    (h : follow trail here segments = some (names, found)) : t.at? names = some found := by
  fun_induction follow trail here segments with
  | case1 trail here =>
      cases h
      exact htrail.at?_place
  | case2 => cases h
  | case3 trail segment rest entries hstay ih => exact ih htrail h
  | case4 rest entries hname ih => exact ih htrail h
  | case5 rest entries hname above name trail ih =>
      cases htrail with
      | enter habove _ => exact ih habove h
  | case6 => cases h
  | case7 trail segment rest entries hname hup next hnext ih => exact ih (htrail.enter hnext) h

/-- Only folders lead to folders. -/
theorem exists_folder_of_follow {here : FileTree} {trail : List (String × FileTree)}
    {segments names : List String} {entries : List (String × FileTree)}
    (h : follow trail here segments = some (names, folder entries)) :
    ∃ entries', here = folder entries' := by
  cases here with
  | folder entries' => exact ⟨entries', rfl⟩
  | file text => cases segments <;> simp [follow] at h

/-- Where there was a folder there is still one. -/
def KeepsFolders (t t' : FileTree) : Prop :=
  ∀ names, t.itemAt? names = some .folder → t'.itemAt? names = some .folder

/-- Trails to one place both end in folders if the first one does. -/
theorem Trail.exists_folder_of_keepsFolders {t t' here' : FileTree}
    {trail trail' : List (String × FileTree)} {entries : List (String × FileTree)}
    (hkeeps : t.KeepsFolders t') (h : Trail t trail (folder entries))
    (h' : Trail t' trail' here') (hsame : trail'.map Prod.fst = trail.map Prod.fst) :
    ∃ entries', here' = folder entries' := by
  have hplace : place trail' = place trail := congrArg List.reverse hsame
  have hfolder : t'.itemAt? (place trail') = some .folder := by
    rw [hplace]
    refine hkeeps _ ?_
    rw [itemAt?, h.at?_place]
    rfl
  rw [itemAt?, h'.at?_place] at hfolder
  exact item_eq_folder_iff.mp (Option.some.inj hfolder)

/-- A path to a folder leads to the same place as long as folders are kept. -/
theorem follow_of_keepsFolders {t t' here here' : FileTree}
    {trail trail' : List (String × FileTree)} {segments names : List String}
    {entries : List (String × FileTree)} (hkeeps : t.KeepsFolders t') (htrail : Trail t trail here)
    (htrail' : Trail t' trail' here') (hsame : trail'.map Prod.fst = trail.map Prod.fst)
    (h : follow trail here segments = some (names, folder entries)) :
    ∃ entries', follow trail' here' segments = some (names, folder entries') := by
  -- A folder is ahead, so that both trails end in folders all the way.
  induction segments generalizing trail trail' here here' with
  | nil =>
      obtain ⟨hnames, rfl⟩ := Prod.mk.inj (Option.some.inj h)
      obtain ⟨entries', rfl⟩ := htrail.exists_folder_of_keepsFolders hkeeps htrail' hsame
      exact ⟨entries', by rw [follow, hsame, hnames]⟩
  | cons segment rest ih =>
      obtain ⟨entries₀, rfl⟩ := exists_folder_of_follow h
      obtain ⟨entries₀', rfl⟩ := htrail.exists_folder_of_keepsFolders hkeeps htrail' hsame
      by_cases hstay : (segment = "" || segment = ".") = true
      · rw [follow_stay _ _ _ hstay] at h ⊢
        exact ih htrail htrail' hsame h
      by_cases hup : segment = ".."
      · subst hup
        cases htrail with
        | top =>
            cases htrail' with
            | top =>
                rw [follow_up_top] at h ⊢
                exact ih .top .top rfl h
            | enter => cases hsame
        | enter habove hnext =>
            cases htrail' with
            | top => cases hsame
            | enter habove' hnext' =>
                rw [follow_up] at h ⊢
                exact ih habove habove' (List.cons.inj hsame).2 h
      · rw [follow_enter _ _ _ (isEntryName_of_not hstay hup)] at h ⊢
        obtain ⟨next, hnext, h⟩ := Option.bind_eq_some_iff.mp h
        -- There is a folder at the entry, and so there is in the other tree.
        have hin := htrail.enter hnext
        obtain ⟨inner, rfl⟩ := exists_folder_of_follow h
        have hfolder := hkeeps (place trail ++ [segment]) (by
          rw [itemAt?_entry htrail.at?_place, hnext]
          rfl)
        have hplace : place trail = place trail' := congrArg List.reverse hsame.symm
        rw [hplace, itemAt?_entry htrail'.at?_place] at hfolder
        obtain ⟨next', hnext', -⟩ := Option.map_eq_some_iff.mp hfolder
        rw [hnext']
        exact ih hin (htrail'.enter hnext') (congrArg (segment :: ·) hsame) h

/-- A path that goes on from a folder by an entry name. -/
theorem follow_append_of_isEntryName {segment : String} (hsegment : IsEntryName segment)
    {here next : FileTree} {trail : List (String × FileTree)} {segments names : List String}
    {entries : List (String × FileTree)}
    (h : follow trail here segments = some (names, folder entries))
    (hnext : entries.lookup segment = some next) :
    follow trail here (segments ++ [segment]) = some (names ++ [segment], next) := by
  rw [follow_eq_foldlM] at h
  obtain ⟨⟨trail', _⟩, hbehind, heq⟩ := Option.map_eq_some_iff.mp h
  cases heq
  obtain ⟨hempty, hpoint, hup⟩ := hsegment
  rw [follow_eq_foldlM, List.foldlM_append, hbehind]
  simp [step?, hempty, hpoint, hup, hnext, place_cons]

/-- Entry names lead to their place. -/
theorem map_snd_follow {names : List String} (hnames : ∀ name ∈ names, IsEntryName name)
    (trail : List (String × FileTree)) (here : FileTree) :
    (follow trail here names).map Prod.snd = here.at? names := by
  induction names generalizing trail here with
  | nil => rfl
  | cons name rest ih =>
      rw [List.forall_mem_cons] at hnames
      cases here with
      | file text => simp [follow, at?, entry?]
      | folder entries =>
          rw [follow_enter _ _ _ hnames.1, at?, entry?]
          cases entries.lookup name with
          | none => rfl
          | some next => exact ih hnames.2 _ next

/-! ### Making folders and writing files -/

/-- The second tree is the first one with more folders. -/
def AddsFolders (t t' : FileTree) : Prop :=
  ∀ names, t'.itemAt? names = t.itemAt? names ∨
    t.itemAt? names = none ∧ t'.itemAt? names = some .folder

theorem AddsFolders.refl (t : FileTree) : t.AddsFolders t :=
  fun _ => Or.inl rfl

theorem AddsFolders.trans {t t' t'' : FileTree} (h : t.AddsFolders t') (h' : t'.AddsFolders t'') :
    t.AddsFolders t'' := by
  intro names
  rcases h names with hsame | ⟨hnone, hnew⟩
  · rw [← hsame]
    exact h' names
  · rcases h' names with hsame' | ⟨hnone', -⟩
    · exact Or.inr ⟨hnone, hsame'.trans hnew⟩
    · rw [hnew] at hnone'
      cases hnone'

/-- A folder is added where nothing was. -/
theorem addsFolders_put? {t t' : FileTree} {names : List String} (hnone : t.at? names = none)
    (h : t.put? names (folder []) = some t') : t.AddsFolders t' := by
  intro names'
  obtain ⟨hbelow, helse⟩ := itemAt?_put? h
  by_cases hpre : names <+: names'
  · obtain ⟨more, rfl⟩ := hpre
    have hnone' : t.itemAt? (names ++ more) = none := by
      rw [itemAt?_append, hnone]
      rfl
    rw [hbelow, hnone', itemAt?_emptyFolder]
    by_cases hmore : more = []
    · exact Or.inr ⟨rfl, if_pos hmore⟩
    · exact Or.inl (if_neg hmore)
  · exact Or.inl (helse names' hpre)

theorem addsFolders_makeFolders (t : FileTree) {names : List String}
    (hnames : ∀ name ∈ names, IsEntryName name) (segments : List String) :
    t.AddsFolders (t.makeFolders names segments).1 := by
  fun_induction makeFolders t names segments with
  | case1 t names => exact .refl t
  | case2 t names segment rest hstay ih => exact ih hnames
  | case3 t names rest hstay ih =>
      exact ih fun name hname => hnames name (List.dropLast_subset names hname)
  | case4 t names segment rest hstay hup _ entries hfollow ih =>
      exact ih (List.forall_mem_append.mpr ⟨hnames, by simp [isEntryName_of_not hstay hup]⟩)
  | case5 t names => exact .refl t
  | case6 t names segment rest hstay hup hfollow t' hput ih =>
      have hnames' : ∀ name ∈ names ++ [segment], IsEntryName name :=
        List.forall_mem_append.mpr ⟨hnames, by simp [isEntryName_of_not hstay hup]⟩
      have hnone : t.at? (names ++ [segment]) = none := by
        rw [← map_snd_follow hnames' [] t, hfollow]
        rfl
      exact (addsFolders_put? hnone hput).trans (ih hnames')
  | case7 t names => exact .refl t

/-- A file takes a place where no folder is, and nothing else changes. -/
theorem itemAt?_put?_file {t t' : FileTree} {names : List String} {text : Option String}
    (hfree : t.itemAt? names ≠ some .folder) (h : t.put? names (file text) = some t') :
    t'.itemAt? names = some (.file text) ∧
      ∀ names', names' ≠ names → t'.itemAt? names' = t.itemAt? names' := by
  obtain ⟨hbelow, helse⟩ := itemAt?_put? h
  refine ⟨?_, fun names' hne => ?_⟩
  · have hthere := hbelow []
    rwa [List.append_nil] at hthere
  by_cases hpre : names <+: names'
  · obtain ⟨more, rfl⟩ := hpre
    have hmore : more ≠ [] := fun hmore => hne (by rw [hmore, List.append_nil])
    rw [hbelow, itemAt?_file, if_neg hmore, itemAt?_append_of_not_folder hfree hmore]
  · exact helse names' hpre

/-- The path of a folder and a name lead to the file that was put there. -/
theorem follow_put?_file {t t' : FileTree} {segments names : List String} {last : String}
    {entries : List (String × FileTree)} {text : Option String} (hname : IsEntryName last)
    (habove : t.follow [] segments = some (names, folder entries))
    (hfree : t.itemAt? (names ++ [last]) ≠ some .folder)
    (hput : t.put? (names ++ [last]) (file text) = some t') :
    t'.follow [] (segments ++ [last]) = some (names ++ [last], file text) := by
  obtain ⟨hthere, helse⟩ := itemAt?_put?_file hfree hput
  -- The way to the folder is as it was, and the new entry is in it.
  have hkeeps : t.KeepsFolders t' := by
    intro names' hfolder
    rw [helse names' fun hsame => hfree (hsame ▸ hfolder), hfolder]
  obtain ⟨entries', habove'⟩ := follow_of_keepsFolders hkeeps .top .top rfl habove
  rw [itemAt?_entry (at?_of_follow .top habove')] at hthere
  obtain ⟨next, hnext, hitem⟩ := Option.map_eq_some_iff.mp hthere
  rw [follow_append_of_isEntryName hname habove' hnext, item_eq_file_iff.mp hitem]

end FileTree

namespace Disk

/-- The place that a path leads to. -/
def locate? (d : Disk) (p : Path) : Option (List String) :=
  (d.top.follow [] (d.start p ++ p.segments)).map Prod.fst

theorem isEntryName_start (d : Disk) (p : Path) : ∀ name ∈ d.start p, IsEntryName name := by
  rw [start]
  split
  · simp
  · exact d.isEntryName_home

/-- Making a folder adds folders and changes nothing else, even if it cannot be made. -/
theorem addsFolders_makeFolder (d : Disk) (p : Path) :
    d.top.AddsFolders (d.makeFolder p).1.top ∧ (d.makeFolder p).1.home = d.home :=
  ⟨d.top.addsFolders_makeFolders (d.isEntryName_start p) p.segments, rfl⟩

/-- A file is written under the last segment, in the folder that the others lead to. -/
theorem exists_put?_of_write? {d d' : Disk} {p : Path} {text : String}
    (h : d.write? p text = some d') :
    ∃ above last names entries top, p.segments = above ++ [last] ∧ IsEntryName last ∧
      d.top.follow [] (d.start p ++ above) = some (names, .folder entries) ∧
      d.top.itemAt? (names ++ [last]) ≠ some .folder ∧
      d.top.put? (names ++ [last]) (.file (some text)) = some top ∧
      d' = { d with top := top } := by
  unfold write? at h
  split at h
  · next last above hsegments =>
      split at h
      · next name names entries hlast habove =>
          obtain ⟨rfl, hname⟩ := FileTree.ofSegment?_eq_name_iff.mp hlast
          have hfree : d.top.itemAt? (names ++ [last]) ≠ some .folder := by
            intro hfolder
            rw [FileTree.itemAt?_entry (FileTree.at?_of_follow .top habove)] at hfolder
            obtain ⟨next, hnext, hitem⟩ := Option.map_eq_some_iff.mp hfolder
            obtain ⟨inner, rfl⟩ := FileTree.item_eq_folder_iff.mp hitem
            rw [hnext] at h
            cases h
          have hput : (d.top.put? (names ++ [last]) (.file (some text))).map
              (fun top => { d with top := top }) = some d' := by
            split at h
            · cases h
            · exact h
          obtain ⟨top, htop, rfl⟩ := Option.map_eq_some_iff.mp hput
          refine ⟨above.reverse, last, names, entries, top, ?_, hname, habove, hfree, htop, rfl⟩
          rw [← List.reverse_reverse p.segments, hsegments, List.reverse_cons]
      · cases h
  · cases h

/-- A file is written to the place that its path leads to, and nothing else changes. -/
theorem write?_spec {d d' : Disk} {p : Path} {text : String} (h : d.write? p text = some d') :
    d'.find? p = some (.file (some text)) ∧ d'.home = d.home ∧
      ∀ names, d'.locate? p ≠ some names → d'.top.itemAt? names = d.top.itemAt? names := by
  obtain ⟨above, last, names, entries, top, hsegments, hname, habove, hfree, htop, rfl⟩ :=
    exists_put?_of_write? h
  have hfollow : top.follow [] (d.start p ++ p.segments) =
      some (names ++ [last], .file (some text)) := by
    rw [hsegments, ← List.append_assoc]
    exact FileTree.follow_put?_file hname habove hfree htop
  have hnonempty : p.text.isEmpty = false := by
    rw [Bool.eq_false_iff]
    intro hempty
    have hlast : some "" = some last := by
      have hsegments' : [""] = above ++ [last] := by
        rw [← hsegments, Path.segments, String.isEmpty_iff.mp hempty]
        rfl
      simpa using congrArg List.getLast? hsegments'
    exact hname.1 (Option.some.inj hlast).symm
  refine ⟨?_, rfl, fun names' hne => ?_⟩
  · show (if p.text.isEmpty then none else
      (top.follow [] (d.start p ++ p.segments)).map Prod.snd) = _
    rw [hnonempty, hfollow]
    rfl
  · refine (FileTree.itemAt?_put?_file hfree htop).2 names' fun hsame => hne ?_
    show (top.follow [] (d.start p ++ p.segments)).map Prod.fst = _
    rw [hfollow, hsame]
    rfl

end Disk

end ClientTraits
