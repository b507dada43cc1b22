/-
A tree of files with symbolic links, and the two ways to follow a path in it.

A place is the list of names from the root; a node sits at a place, and a place with a node has directories above it. The
text of a link is a route: the parts between its slashes.

`realPath` is `posixpath.realpath` without `strict`. It reads one place after the other and recurses into the text of a
link. It remembers the links it is inside of: one that is met again is a loop, and what is left of the path is appended
without being read. The result is then normalized as a text, so that `..` behind a loop takes a name away and not a
place. `follow` is what the operating system does with a path: every link is followed, up to a number of them, and
everything but the last part must be a directory.

- `realPath_unlinked`: no place on the way to a result is read as a link, unless there was a loop;
- `follow_unlinked`: a path without links on the way leads to the node at its place.
-/
import AstraFsw.Core.PurePath

namespace AstraFsw.FileTree

variable {α β ε : Type}

/-! ## Routes -/

/-- the text of a link, taken apart at its slashes -/
abbrev Route (α : Type) := List (Part α)

/-- the text starts with a slash -/
def isAbsolute : Route α → Bool
  | .empty :: _ :: _ => true
  | _ => false

/-- the number of slashes in front as POSIX counts them -/
def leadingSlashes : Route α → ℕ
  | .empty :: .empty :: .empty :: _ :: _ => 1
  | .empty :: .empty :: _ :: _ => 2
  | .empty :: _ :: _ => 1
  | _ => 0

/-- `posixpath.join(path, rest)` for a path with a root -/
def appendRoute (path : PurePath (Part α)) (rest : Route α) : PurePath (Part α) :=
  if isAbsolute rest then ⟨leadingSlashes rest, rest⟩ else { path with parts := path.parts ++ rest }

/-- one part of `posixpath.normpath` -/
def normStep (place : List α) : Part α → List α
  | .empty => place
  | .dot => place
  | .up => place.dropLast
  | .name n => place ++ [n]

/-- `posixpath.normpath` of a path with a root: `..` takes the name before it away -/
def normPath (path : PurePath (Part α)) : PurePath α := ⟨path.root, path.parts.foldl normStep []⟩

/-! ## Trees -/

inductive Node (α β : Type) where
  | file (content : β)
  | directory
  | link (target : Route α)
deriving DecidableEq, Repr

structure Tree (α β : Type) where
  node : List α → Option (Node α β)
  root : node [] = some .directory
  parent : ∀ place n, node (place ++ [n]) ≠ none → node place = some .directory

namespace Tree

/-- the node that a list of entries puts at a place -/
def nodeOf [DecidableEq α] (entries : List (List α × Node α β)) (place : List α) : Option (Node α β) :=
  if place = [] then some .directory else (entries.find? fun e => decide (e.1 = place)).map (·.2)

/-- the tree of a list of entries that has the directories above each of them -/
def ofEntries [DecidableEq α] (entries : List (List α × Node α β))
    (h : ∀ e ∈ entries, e.1 ≠ [] → nodeOf entries e.1.dropLast = some .directory) : Tree α β where
  node := nodeOf entries
  root := if_pos rfl
  parent place n hnode := by
    unfold nodeOf at hnode
    rw [if_neg (by simp), ne_eq, Option.map_eq_none_iff, ← ne_eq, Option.ne_none_iff_exists'] at hnode
    obtain ⟨e, he⟩ := hnode
    have hplace : e.1 = place ++ [n] := by simpa using List.find?_some he
    have habove := h e (List.mem_of_find?_eq_some he) (by simp [hplace])
    rwa [hplace, List.dropLast_concat] at habove

/-- above a place with a node there are directories only -/
theorem node_above {t : Tree α β} {place above : List α} (hnode : t.node place ≠ none) (habove : above <+: place)
    (hne : above ≠ place) : t.node above = some .directory := by
  induction place using List.reverseRecOn with
  | nil => exact absurd (List.prefix_nil.1 habove) hne
  | append_singleton front n ih =>
    have hfront := t.parent front n hnode
    rcases List.prefix_concat_iff.1 habove with rfl | hbelow
    · exact absurd rfl hne
    · by_cases heq : above = front
      · rw [heq, hfront]
      · exact ih (by simp [hfront]) hbelow heq

end Tree

/-! ## The resolution of paths -/

/-- the links a resolution has met, with where they lead; none for a link it is inside of -/
abbrev Seen (α : Type) := List (List α × Option (List α))

inductive Walked (α : Type) where
  | resolved (place : List α)
  /-- a loop of links: the path up to it, and what was left to read -/
  | broken (path : PurePath (Part α))
deriving DecidableEq, Repr

/-- the path that a resolution ends with -/
def Walked.path : Walked α → PurePath α
  | resolved place => ⟨1, place⟩
  | broken path => normPath path

section

variable {readLink : List α → Except ε (Option (Route α))}

/-- no place on the way is read as a link -/
def Unlinked (readLink : List α → Except ε (Option (Route α))) (place : List α) : Prop :=
  ∀ above n, above ++ [n] <+: place → readLink (above ++ [n]) = .ok none

theorem unlinked_nil : Unlinked readLink [] := by
  intro above n h
  exact absurd (List.prefix_nil.1 h) (by simp)

theorem Unlinked.dropLast {place : List α} (h : Unlinked readLink place) : Unlinked readLink place.dropLast :=
  fun above n habove => h above n (habove.trans (List.dropLast_prefix place))

theorem Unlinked.snoc {place : List α} {n : α} (h : Unlinked readLink place)
    (hn : readLink (place ++ [n]) = .ok none) : Unlinked readLink (place ++ [n]) := by
  intro above m habove
  rcases List.prefix_concat_iff.1 habove with heq | hbelow
  · rw [heq, hn]
  · exact h above m hbelow

end

section Resolution

variable [DecidableEq α] (readLink : List α → Except ε (Option (Route α)))

/-- the loop of `_joinrealpath` over the parts of a text; `nested` resolves the text of a link -/
def scanRoute (nested : Seen α → List α → Route α → Except ε (Seen α × Walked α)) :
    Seen α → List α → Route α → Except ε (Seen α × Walked α)
  | seen, place, [] => .ok (seen, .resolved place)
  | seen, place, .empty :: rest => scanRoute nested seen place rest
  | seen, place, .dot :: rest => scanRoute nested seen place rest
  | seen, place, .up :: rest => scanRoute nested seen place.dropLast rest
  | seen, place, .name n :: rest =>
    match readLink (place ++ [n]) with
    | .error e => .error e
    | .ok none => scanRoute nested seen (place ++ [n]) rest
    | .ok (some target) =>
      match seen.lookup (place ++ [n]) with
      | some (some known) => scanRoute nested seen known rest
      | some none => .ok (seen, .broken (appendRoute ⟨1, (place ++ [n]).map .name⟩ rest))
      | none =>
        match nested ((place ++ [n], none) :: seen) place target with
        | .error e => .error e
        | .ok (seen, .broken path) => .ok (seen, .broken (appendRoute path rest))
        | .ok (seen, .resolved found) => scanRoute nested ((place ++ [n], some found) :: seen) found rest

/-- `_joinrealpath`, with the number of calls that may be inside one another -/
def joinRealPath (tooDeep : ε) : ℕ → Seen α → List α → Route α → Except ε (Seen α × Walked α)
  | 0, _, _, _ => .error tooDeep
  | depth + 1, seen, place, route =>
    scanRoute readLink (joinRealPath tooDeep depth) seen (if isAbsolute route then [] else place) route

/-- the resolution of a path from the root -/
def realPath (tooDeep : ε) (depth : ℕ) (route : Route α) : Except ε (Walked α) :=
  (joinRealPath readLink tooDeep depth [] [] route).map (·.2)

/-! ## What a resolution ends with -/

variable {readLink}

/-- a resolution without a loop ends where nothing on the way is a link, and so did those it remembers -/
def Settles (readLink : List α → Except ε (Option (Route α)))
    (resolve : Seen α → List α → Route α → Except ε (Seen α × Walked α)) : Prop :=
  ∀ seen place route seen' walked, (∀ link found, seen.lookup link = some (some found) → Unlinked readLink found) →
    Unlinked readLink place → resolve seen place route = .ok (seen', walked) →
      (∀ link found, seen'.lookup link = some (some found) → Unlinked readLink found) ∧
        ∀ found, walked = .resolved found → Unlinked readLink found

/-- what is remembered of a link is its end, or nothing yet -/
theorem lookup_remember {seen : Seen α} {link : List α} {known : Option (List α)}
    (hseen : ∀ link found, seen.lookup link = some (some found) → Unlinked readLink found)
    (hknown : ∀ found, known = some found → Unlinked readLink found) :
    ∀ link' found, ((link, known) :: seen).lookup link' = some (some found) → Unlinked readLink found := by
  intro link' found hfound
  rw [List.lookup_cons] at hfound
  split at hfound
  · exact hknown found (Option.some.inj hfound)
  · exact hseen link' found hfound

/-- **One text.** The loop settles if the resolution of the links in it does. -/
theorem scanRoute_settles {nested : Seen α → List α → Route α → Except ε (Seen α × Walked α)}
    (hnested : Settles readLink nested) : Settles readLink (scanRoute readLink nested) := by
  intro seen place route seen' walked hseen hplace h
  induction route generalizing seen place with
  | nil =>
    rw [scanRoute, Except.ok.injEq, Prod.mk.injEq] at h
    obtain ⟨rfl, rfl⟩ := h
    exact ⟨hseen, fun found hfound => Walked.resolved.inj hfound ▸ hplace⟩
  | cons part rest ih =>
    cases part with
    | empty => exact ih _ _ hseen hplace h
    | dot => exact ih _ _ hseen hplace h
    | up => exact ih _ _ hseen hplace.dropLast h
    | name n =>
      rw [scanRoute] at h
      split at h
      next => cases h
      next hread => exact ih _ _ hseen (hplace.snoc hread) h
      next target hread =>
        split at h
        next known hknown => exact ih _ _ hseen (hseen _ known hknown) h
        next =>
          -- the link is met inside itself
          obtain ⟨rfl, rfl⟩ := Prod.mk.inj (Except.ok.inj h)
          exact ⟨hseen, fun found hfound => by cases hfound⟩
        next =>
          have hinside : ∀ link found, ((place ++ [n], none) :: seen).lookup link = some (some found) →
              Unlinked readLink found := lookup_remember hseen (by simp)
          split at h
          next => cases h
          next seen₁ path hbroken =>
            obtain ⟨rfl, rfl⟩ := Prod.mk.inj (Except.ok.inj h)
            exact ⟨(hnested _ _ _ _ _ hinside hplace hbroken).1, fun found hfound => by cases hfound⟩
          next seen₁ found hresolved =>
            obtain ⟨hseen₁, hfound⟩ := hnested _ _ _ _ _ hinside hplace hresolved
            have hfound := hfound found rfl
            refine ih _ _ (lookup_remember hseen₁ ?_) hfound h
            intro found' heq
            rwa [← Option.some.inj heq]

theorem joinRealPath_settles (tooDeep : ε) (depth : ℕ) : Settles readLink (joinRealPath readLink tooDeep depth) := by
  induction depth with
  | zero =>
    intro seen place route seen' walked _ _ h
    cases h
  | succ depth ih =>
    intro seen place route seen' walked hseen hplace h
    refine scanRoute_settles ih _ _ _ _ _ hseen ?_ h
    split_ifs
    · exact unlinked_nil
    · exact hplace

/-- **A path that resolves without a loop resolves to where it is.** -/
theorem realPath_unlinked {tooDeep : ε} {depth : ℕ} {route : Route α} {place : List α}
    (h : realPath readLink tooDeep depth route = .ok (.resolved place)) : Unlinked readLink place := by
  rw [realPath] at h
  cases hjoined : joinRealPath readLink tooDeep depth [] [] route with
  | error e =>
    rw [hjoined] at h
    cases h
  | ok result =>
    rw [hjoined] at h
    have hwalked : result.2 = .resolved place := Except.ok.inj h
    exact (joinRealPath_settles tooDeep depth _ _ _ _ _ (by simp) unlinked_nil hjoined).2 place hwalked

end Resolution

/-! ## What the operating system opens -/

inductive Found (α β : Type) where
  | node (n : Node α β)
  /-- nothing there, or a file where a directory has to be -/
  | missing
  | loop
deriving DecidableEq, Repr

namespace Tree

variable (t : Tree α β)

/-- the parts of a path, up to the next link -/
def followParts (nested : List α → Route α → Found α β) : List α → Route α → Found α β
  | place, [] =>
    match t.node place with
    | some node => .node node
    | none => .missing
  | place, part :: rest =>
    match t.node place with
    | some .directory =>
      match part with
      | .empty => followParts nested place rest
      | .dot => followParts nested place rest
      | .up => followParts nested place.dropLast rest
      | .name n =>
        match t.node (place ++ [n]) with
        | some (.link target) => nested (if isAbsolute target then [] else place) (target ++ rest)
        | _ => followParts nested (place ++ [n]) rest
    | _ => .missing

/-- follow a path from a place, through so many links at most -/
def follow : ℕ → List α → Route α → Found α β
  | 0 => t.followParts fun _ _ => .loop
  | links + 1 => t.followParts (follow links)

variable {t}

/-- names below a place, without a link on the way -/
theorem followParts_unlinked {nested : List α → Route α → Found α β} {place names : List α} {node : Node α β}
    (h : ∀ above n, above ++ [n] <+: place ++ names → ∀ target, t.node (above ++ [n]) ≠ some (.link target))
    (hfollow : t.followParts nested place (names.map .name) = .node node) :
    t.node (place ++ names) = some node := by
  induction names generalizing place with
  | nil =>
    rw [List.map_nil, followParts] at hfollow
    rw [List.append_nil]
    split at hfollow
    next found hfound => rw [hfound, Found.node.inj hfollow]
    next => cases hfollow
  | cons n names ih =>
    have hshape : place ++ n :: names = place ++ [n] ++ names := by simp
    have hnode : ∀ target, t.node (place ++ [n]) ≠ some (.link target) := h place n ⟨names, hshape.symm⟩
    rw [hshape]
    refine ih (fun above m habove => h above m (hshape ▸ habove)) ?_
    rw [List.map_cons, followParts] at hfollow
    split at hfollow
    next =>
      split at hfollow
      next target htarget => exact absurd htarget (hnode target)
      next => exact hfollow
    next => cases hfollow

/-- **A path without links on the way** leads to the node at its place. -/
theorem follow_unlinked {links : ℕ} {place : List α} {node : Node α β}
    (h : ∀ above n, above ++ [n] <+: place → ∀ target, t.node (above ++ [n]) ≠ some (.link target))
    (hfollow : t.follow links [] (place.map .name) = .node node) : t.node place = some node := by
  cases links with
  | zero => exact followParts_unlinked h hfollow
  | succ links => exact followParts_unlinked h hfollow

end Tree

end AstraFsw.FileTree
