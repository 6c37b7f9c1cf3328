import TimedPublishing.Proofs.Outcomes
import TimedPublishing.Proofs.Url.Percent
import TimedPublishing.Url.Parser

/-!
# The segments of a path that was read

A path is cut at its slashes, so no segment of it holds one: encoding brings none in, and neither
does resolving dot segments, which only takes segments back or adds empty ones. Every url that is
read keeps this, whatever its scheme. The written path can then be read as what it says: where it
ends with a slash, the last segment is empty. `Parser.CutsPaths` is what is asked of a parser of
urls, and the parser here is one that does it.
-/

namespace TimedPublishing

/-- The pieces of a text hold no separators. -/
theorem Text.not_separates_of_mem_pieces {separates : Char → Bool} {text piece : List Char}
    (member : piece ∈ pieces separates text) {character : Char} (inPiece : character ∈ piece) :
    separates character = false := by
  induction text generalizing piece with
  | nil =>
    rw [pieces, List.mem_singleton] at member
    rw [member] at inPiece
    cases inPiece
  | cons first rest inductionHypothesis =>
    rw [pieces] at member
    split at member
    · obtain rfl | inRest := List.mem_cons.mp member
      · cases inPiece
      · exact inductionHypothesis inRest inPiece
    next keeps =>
      split at member
      next head others cut =>
        obtain rfl | inRest := List.mem_cons.mp member
        · obtain rfl | inHead := List.mem_cons.mp inPiece
          · exact eq_false_of_ne_true keeps
          · exact inductionHypothesis (cut ▸ List.mem_cons_self) inHead
        · exact inductionHypothesis (cut ▸ List.mem_cons_of_mem head inRest) inPiece
      next none =>
        rw [List.mem_singleton.mp member, List.mem_singleton] at inPiece
        exact inPiece ▸ eq_false_of_ne_true keeps

namespace Url

namespace Path

/-- A path is proper if no segment of it holds a slash. -/
def Proper (path : List String) : Prop := ∀ segment ∈ path, '/' ∉ segment.toList

variable {kind : Kind} {path other : List String} {segment : List Char}

theorem Proper.nil : Proper [] := nofun

theorem Proper.append (proper : Proper path) (others : Proper other) : Proper (path ++ other) :=
  fun segment member => (List.mem_append.mp member).elim (proper segment) (others segment)

theorem Proper.singleton (noSlash : '/' ∉ segment) : Proper [String.ofList segment] := by
  intro text member
  rwa [List.mem_singleton.mp member, String.toList_ofList]

theorem Proper.empty : Proper [""] := .singleton (List.not_mem_nil)

theorem Proper.sublist (proper : Proper path) (part : other.Sublist path) : Proper other :=
  fun segment member => proper segment (part.subset member)

theorem Proper.parent (proper : Proper path) : Proper (parent path) := by
  unfold Path.parent
  split
  · exact proper
  · exact proper.sublist (List.dropLast_sublist path)

theorem Proper.push (proper : Proper path) (noSlash : '/' ∉ segment) :
    Proper (push kind path segment) := by
  unfold Path.push
  split
  next letter mark =>
    split
    next drive =>
      have isLetter : letter ≠ '/' := by
        rintro rfl
        exact absurd drive.2 (by simp [isDriveMark])
      exact .singleton (by simp [isLetter.symm])
    next => exact .singleton noSlash
  next => exact proper.append (.singleton noSlash)

theorem Proper.add (proper : Proper path) (noSlash : '/' ∉ segment) (isLast : Bool) :
    Proper (add kind path segment isLast) := by
  unfold Path.add
  split
  · split
    · exact proper.parent.append .empty
    · exact proper.parent
  · split
    · split
      · exact proper.append .empty
      · exact proper
    · exact proper.push noSlash

/-- Encoding for a path brings in no slash. -/
theorem slash_not_mem_encode {piece : List Char} (noSlash : '/' ∉ piece) :
    '/' ∉ encode escapesInPath piece :=
  fun member => noSlash (mem_of_mem_encode .path (by decide) rfl member).1

theorem Proper.resolve {pieces : List (List Char)} (noSlash : ∀ piece ∈ pieces, '/' ∉ piece)
    (proper : Proper path) : Proper (resolve kind path pieces) := by
  induction pieces generalizing path with
  | nil => exact proper
  | cons piece rest inductionHypothesis =>
    rw [List.forall_mem_cons] at noSlash
    have encoded := slash_not_mem_encode noSlash.1
    cases rest with
    | nil => exact proper.add encoded true
    | cons next others => exact inductionHypothesis noSlash.2 (proper.add encoded false)

theorem Proper.read (text : List Char) : Proper (read kind text) :=
  .resolve (fun _ member inPiece => absurd (Text.not_separates_of_mem_pieces member inPiece)
    (by simp [Kind.isSlash])) .nil

theorem Proper.readBehindHost (text : List Char) : Proper (readBehindHost kind text) := by
  unfold Path.readBehindHost
  split
  · split
    · exact .empty
    · exact .nil
  · exact .read _

theorem Proper.withoutLeadingEmpty (proper : Proper path) : Proper (withoutLeadingEmpty path) := by
  unfold Path.withoutLeadingEmpty
  split
  · exact .empty
  · exact proper.sublist (List.dropWhile_sublist _)

end Path

/-- A body is proper if its path is, should it have one. -/
def ProperBody (body : UrlBody) : Prop :=
  ∀ place path, body = .path place path → Path.Proper path

theorem ProperBody.path {place : Place} {path : List String} (proper : Path.Proper path) :
    ProperBody (.path place path) := by
  intro _ _ same
  cases same
  exact proper

theorem ProperBody.otherBody (text : List Char) : ProperBody (otherBody text) := by
  unfold Url.otherBody
  split
  · exact .path (.read _)
  · nofun

variable {scheme : String} {text : List Char} {url : Url}

theorem proper_of_located? (read : located? scheme text = .ok url) : ProperBody url.body := by
  obtain ⟨_, _, same⟩ := bind_eq_ok.mp read
  obtain rfl := Except.ok.inj same
  exact .path (.readBehindHost _)

theorem proper_of_fileHost? {host : Host} {path : List String}
    (read : fileHost? text = .ok (host, path)) : Path.Proper path := by
  unfold fileHost? at read
  dsimp only at read
  split at read
  · cases read
    exact .read _
  · split at read
    · cases read
      exact .read _
    · obtain ⟨found, _, read⟩ := bind_eq_ok.mp read
      split at read
      · cases read
        exact .read _
      · cases read
        exact .readBehindHost _

/-- The body behind a host and a path that were read for a file. -/
theorem proper_of_fileParts {parts : Except Fault (Host × List String)} {body : UrlBody}
    {behind : Host × List String → Except Fault UrlBody}
    (proper : ∀ host path, parts = .ok (host, path) → Path.Proper path)
    (ends : ∀ host path, ∃ place,
      behind (host, path) = .ok (.path place (Path.withoutLeadingEmpty path)))
    (read : (parts >>= behind) = .ok body) : ProperBody body := by
  obtain ⟨⟨host, path⟩, found, same⟩ := bind_eq_ok.mp read
  obtain ⟨place, last⟩ := ends host path
  obtain rfl := Except.ok.inj (last.symm.trans same)
  exact .path (proper host path found).withoutLeadingEmpty

theorem proper_of_fileBody? {body : UrlBody} (read : fileBody? text = .ok body) :
    ProperBody body := by
  have direct {behind : List Char} (host : Host) (path : List String)
      (same : (.ok (.empty, Path.read .file behind) : Except Fault (Host × List String)) =
        .ok (host, path)) : Path.Proper path := by
    cases same
    exact .read _
  unfold fileBody? at read
  dsimp only at read
  split at read
  · exact proper_of_fileParts direct (fun _ _ => ⟨_, rfl⟩) read
  · split at read
    · split at read
      · split at read
        · exact proper_of_fileParts (fun _ _ => proper_of_fileHost?) (fun _ _ => ⟨_, rfl⟩) read
        · exact proper_of_fileParts direct (fun _ _ => ⟨_, rfl⟩) read
      · exact proper_of_fileParts direct (fun _ _ => ⟨_, rfl⟩) read
    · exact proper_of_fileParts direct (fun _ _ => ⟨_, rfl⟩) read

/-- A parser cuts paths at their slashes if no segment of a url that it reads holds one. -/
def Parser.CutsPaths (parser : Parser) : Prop :=
  ∀ written url, parser written = .ok url → ProperBody url.body

/-- The parser that a process runs with cuts paths at their slashes. -/
theorem cutsPaths_parse : Parser.CutsPaths parse := by
  intro written url read
  unfold parse at read
  split at read
  next scheme rest _ =>
    unfold ofBody? at read
    split at read
    · exact proper_of_located? read
    · exact proper_of_located? read
    · cases read
      exact .otherBody _
    · obtain ⟨body, found, same⟩ := bind_eq_ok.mp read
      cases same
      exact proper_of_fileBody? found
  next => cases read

end Url

end TimedPublishing
