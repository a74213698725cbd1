import ErrorPages.Named
import ErrorPages.Template

/-! Templates under names. -/

namespace ErrorPages

abbrev TemplateSet := Named String

namespace TemplateSet

def renderInto (set : TemplateSet) (name : String) (page : Page) (buffer : String) : Rendering :=
  match set.get? name with
  | none => ⟨buffer, .failed (.missingTemplate name)⟩
  | some source => Template.render name source page buffer

def renderer (set : TemplateSet) : Renderer := fun name page => set.renderInto name page ""

end TemplateSet

end ErrorPages
