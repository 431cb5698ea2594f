import Switchboard.Catalog.Basic

/-!
The catalog that applies when no models are configured: ten models over five tiers. Prices are
dollars per million tokens, strengths are judgements relative to each other.
-/

namespace Switchboard.Catalog

def opus : Model :=
  { id := "anthropic/claude-3-opus"
    name := "Claude 3 Opus"
    contextLength := 200000
    capabilities :=
      { reasoning := 1.0, creativity := 0.95, speed := 0.4, toolUse := 0.9
        multimodal := 0.8, math := 0.95, multilingual := 0.85 }
    pricing := ⟨15.0, 75.0⟩
    useCases := ["Complex reasoning", "Strategic planning", "Core reasoning"]
    tier := 1 }

def turbo : Model :=
  { id := "openai/gpt-4-turbo"
    name := "GPT-4 Turbo"
    contextLength := 128000
    capabilities :=
      { reasoning := 0.95, creativity := 0.95, speed := 0.6, toolUse := 0.95
        multimodal := 0.9, math := 0.9, multilingual := 0.8 }
    pricing := ⟨10.0, 30.0⟩
    useCases := ["General intelligence", "Creative tasks", "Multi-domain knowledge"]
    tier := 1 }

def sonnet : Model :=
  { id := "anthropic/claude-3-sonnet"
    name := "Claude 3 Sonnet"
    contextLength := 200000
    capabilities :=
      { reasoning := 0.85, creativity := 0.85, speed := 0.7, toolUse := 0.85
        multimodal := 0.8, math := 0.85, multilingual := 0.85 }
    pricing := ⟨3.0, 15.0⟩
    useCases := ["Cost-effective advanced reasoning", "Operational intelligence", "Command network"]
    tier := 2 }

def geminiPro : Model :=
  { id := "google/gemini-pro-1.5"
    name := "Gemini Pro 1.5"
    contextLength := 1000000
    capabilities :=
      { reasoning := 0.9, creativity := 0.85, speed := 0.5, toolUse := 0.8
        multimodal := 0.9, math := 0.9, multilingual := 0.9 }
    pricing := ⟨1.25, 5.0⟩
    useCases := ["Massive context", "Multi-modal reasoning", "Massive memory integration"]
    tier := 2 }

def vision : Model :=
  { id := "openai/gpt-4-vision-preview"
    name := "GPT-4 Vision"
    contextLength := 128000
    capabilities :=
      { reasoning := 0.9, creativity := 0.9, speed := 0.5, toolUse := 0.85
        multimodal := 1.0, math := 0.85, multilingual := 0.75 }
    pricing := ⟨10.0, 30.0⟩
    useCases := ["Multi-modal understanding", "Visual reasoning", "Embodiment"]
    tier := 3 }

def haiku : Model :=
  { id := "anthropic/claude-3-haiku"
    name := "Claude 3 Haiku"
    contextLength := 200000
    capabilities :=
      { reasoning := 0.7, creativity := 0.7, speed := 1.0, toolUse := 0.7
        multimodal := 0.7, math := 0.7, multilingual := 0.75 }
    pricing := ⟨0.25, 1.25⟩
    useCases := ["Real-time processing", "Low-latency responses", "Operational tasks", "Voice processing"]
    tier := 3 }

def mixtral : Model :=
  { id := "mistralai/mixtral-8x22b"
    name := "Mixtral 8x22B"
    contextLength := 64000
    capabilities :=
      { reasoning := 0.8, creativity := 0.8, speed := 0.6, toolUse := 0.75
        multimodal := 0.0, math := 0.8, multilingual := 0.8 }
    pricing := ⟨2.0, 6.0⟩
    useCases := ["Open-weight alternative", "Cost-effective scale", "Experimental architectures"]
    tier := 4 }

def commandR : Model :=
  { id := "cohere/command-r-plus"
    name := "Command R+"
    contextLength := 128000
    capabilities :=
      { reasoning := 0.75, creativity := 0.7, speed := 0.7, toolUse := 1.0
        multimodal := 0.0, math := 0.7, multilingual := 0.8 }
    pricing := ⟨3.0, 15.0⟩
    useCases := ["Tool use", "API calling", "Operational automation", "System automation"]
    tier := 4 }

def llama : Model :=
  { id := "meta-llama/llama-3-70b-instruct"
    name := "Llama 3 70B"
    contextLength := 8000
    capabilities :=
      { reasoning := 0.75, creativity := 0.75, speed := 0.7, toolUse := 0.7
        multimodal := 0.0, math := 0.75, multilingual := 0.7 }
    pricing := ⟨0.9, 0.9⟩
    useCases := ["Open-source foundation", "Customizable", "Cost-effective", "Experimental features"]
    tier := 5 }

def qwen : Model :=
  { id := "qwen/qwen-2-72b-instruct"
    name := "Qwen 2 72B"
    contextLength := 32000
    capabilities :=
      { reasoning := 0.8, creativity := 0.75, speed := 0.7, toolUse := 0.75
        multimodal := 0.0, math := 0.9, multilingual := 0.95 }
    pricing := ⟨1.5, 1.5⟩
    useCases := ["Multilingual capabilities", "Mathematical reasoning", "Analytical tasks", "International operations"]
    tier := 5 }

/-- The packaged models, from the strongest to the open foundations. -/
def packaged : List Model :=
  [opus, turbo, sonnet, geminiPro, vision, haiku, mixtral, commandR, llama, qwen]

def default {σ : Type} : Step σ Catalog := build packaged

end Switchboard.Catalog
