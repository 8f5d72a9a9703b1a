import IcuMessage.Provider
import IcuMessage.Traced

/-!
# Negotiation of the locale

The first requested locale that the provider can serve is used.  Each one
before it is reported, and English is used when none is left.
-/

namespace IcuMessage

namespace Provider

/-- The locale of a requested tag, if the provider can serve it. -/
def usableLocale (provider : Provider) (requested : String) : Except Failure LocaleTag := do
  let tag ← LocaleTag.canonicalize requested
  if provider.supportsLocale tag then .ok tag else .error (.unsupportedLocale tag.write)

/-- The locale in which messages are formatted for a list of requests. -/
def negotiate (provider : Provider) : List String → Traced LocaleTag
  | [] => pure LocaleTag.english
  | requested :: rest =>
      match provider.usableLocale requested with
      | .ok tag => pure tag
      | .error error => do
          Traced.report (.localeIgnored requested error)
          provider.negotiate rest

/-- Negotiation always ends with a locale. -/
theorem exists_outcome_negotiate (provider : Provider) (requests : List String) :
    ∃ tag, (provider.negotiate requests).outcome = .ok tag := by
  induction requests with
  | nil => exact ⟨_, rfl⟩
  | cons requested rest ih =>
      obtain ⟨tag, settled⟩ := ih
      cases usable : provider.usableLocale requested with
      | ok first => exact ⟨first, by simp [negotiate, usable]⟩
      | error error => exact ⟨tag, by rw [negotiate, usable]; exact settled⟩

end Provider

end IcuMessage
