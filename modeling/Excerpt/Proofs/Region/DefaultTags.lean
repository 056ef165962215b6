import Excerpt.Processor
import Excerpt.Proofs.Region.Placement

/-! # The default tags

The default patterns spelled out as a node, and the processor of the default configuration. -/

namespace Excerpt

open Pattern

/-- A text that stands in the pattern as it is, and then the rest of the pattern. -/
def Pattern.Node.literal (t : Text) (rest : Node) : Node :=
  t.foldr (fun c n => .cat (.set (.single c)) n) rest

/-- The opening tag `<style[^>]*>`. -/
def defaultOpening : Node :=
  .literal ['<', 's', 't', 'y', 'l', 'e']
    (.cat (.star true (.set (.complement (.union .none (.single '>'))))) (.set (.single '>')))

/-- Any text, as short as possible. -/
def defaultBody : Node :=
  .star false (.set (.union (.union .none .space) (.complement .space)))

/-- The closing tag `</\s*?style>`. -/
def defaultClosing : Node :=
  .literal ['<', '/'] (.cat (.star false (.set .space))
    (.literal ['s', 't', 'y', 'l', 'e'] (.set (.single '>'))))

/-- The finder of the default tags. -/
def RegionFinder.default : RegionFinder where
  pattern := .cat (.capture "open" defaultOpening) (.cat (.capture "body" defaultBody)
    defaultClosing)
  guard := "\"'`".toList

theorem compile_default :
    Pattern.compile (TagPatterns.regionPattern {}).toList = some RegionFinder.default.pattern := by
  decide +kernel

theorem RegionFinder.ofTags_default : RegionFinder.ofTags {} = .ok RegionFinder.default := by
  have hguard : (TagPatterns.guard {}).toList = RegionFinder.default.guard := rfl
  simp only [ofTags, compile_default, hguard]

/-- The processor of the default configuration, before it has extracted anything. -/
def Processor.default : Processor :=
  ⟨{}, RegionFinder.default, .all, .empty⟩

theorem Processor.ofConfig_default : Processor.ofConfig {} = .ok Processor.default := by
  have hfilter : FileFilter.ofPolicy .default = .ok .all := rfl
  simp only [ofConfig, RegionFinder.ofTags_default, hfilter]
  rfl

/-- The default tags are aligned in every text. -/
theorem RegionFinder.alignedIn_default (host : Text) : RegionFinder.default.AlignedIn host :=
  alignedIn_of_isTagSequence (by decide) host

end Excerpt
