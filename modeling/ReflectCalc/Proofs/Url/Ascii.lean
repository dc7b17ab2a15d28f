import ReflectCalc.Url.Ascii

/-!
# The reader of URLs in ASCII is lawful

What is read by the common rules has a host, which is also written in the URL; of any other URL only
the scheme is kept. A URL has a port if its scheme goes with one.

* `parse_cases` puts what the reader returns into one of these two forms;
* `LawfulUrlReader` follows from it, so whatever holds over any lawful reader holds of the programs.
-/

namespace ReflectCalc.AsciiUrl

variable {scheme rest t : Text} {url : Url}

/-- What is read by the common rules has been put together from a host, a port and a path. -/
theorem exists_assemble_of_readRest (h : readRest scheme rest = .ok url) :
    ∃ host port path, url = assemble scheme host port path := by
  simp only [readRest, bind, Except.bind] at h
  -- The host and the port come from one reading, and nothing behind it can fail.
  split at h
  · cases h
  next read _ =>
    cases h
    exact ⟨read.1, read.2, _, rfl⟩

/-- A URL has the parts of the common rules, or a scheme that goes with no port and nothing else. -/
theorem parse_cases (h : parse t = .ok url) :
    (∃ scheme host port path, url = assemble scheme host port path) ∨
      defaultPort? url.scheme = none ∧ url = { scheme := url.scheme } := by
  unfold parse at h
  split at h
  · cases h
  next scheme rest _ =>
    split at h
    · exact .inl ⟨scheme, exists_assemble_of_readRest h⟩
    next hother =>
      right
      have hkept : url = { scheme := scheme } := by
        simp only [bind, Except.bind, pure, Except.pure] at h
        split at h <;> split at h <;> cases h <;> rfl
      rw [hkept]
      exact ⟨by simpa using hother, rfl⟩

theorem parse_of_read (h : UrlReader.read t = .ok url) : parse t = .ok url := by
  have hmap : (parse t).mapError Error.text = .ok url := h
  cases hparse : parse t with
  | error e =>
    rw [hparse] at hmap
    cases hmap
  | ok url' =>
    rw [hparse] at hmap
    cases hmap
    rfl

instance : LawfulUrlReader where
  knownPort_of_http {t url} hread hhttp := by
    have hdefault : defaultPort? url.scheme = some 80 := by
      rw [hhttp]
      decide
    rcases parse_cases (parse_of_read hread) with ⟨scheme, host, port, path, rfl⟩ | ⟨hnone, -⟩
    · show (port <|> defaultPort? scheme).isSome
      rw [show defaultPort? scheme = some 80 from hdefault]
      cases port with
      | none => rfl
      | some port => rfl
    · cases hnone.symm.trans hdefault
  hostText_iff_host {t url} hread := by
    rcases parse_cases (parse_of_read hread) with ⟨scheme, host, port, path, rfl⟩ | ⟨-, hkept⟩
    · exact Iff.rfl
    · rw [hkept]
      exact Iff.rfl

end ReflectCalc.AsciiUrl
