import ShaderSurface.Main
import ShaderSurface.Proofs.Command.Dump
import ShaderSurface.Proofs.Declaration.Classification
import ShaderSurface.Proofs.Grammar.Respacing
import ShaderSurface.Proofs.Layout.Arguments
import ShaderSurface.Proofs.Layout.FirstFit
import ShaderSurface.Proofs.Layout.Placement
import ShaderSurface.Proofs.Layout.Squeezing
import ShaderSurface.Proofs.Listing.Reading
import ShaderSurface.Proofs.Program.Bindings
import ShaderSurface.Proofs.Program.Ending
import ShaderSurface.Proofs.Program.Inputs
import ShaderSurface.Proofs.Program.LeafPlaces
import ShaderSurface.Proofs.Source.Commented
import ShaderSurface.Proofs.Source.Hoisting
import ShaderSurface.Proofs.Source.Stripped
import ShaderSurface.Proofs.Span.JoinedWords
import ShaderSurface.Proofs.Span.Restoration
import ShaderSurface.Proofs.Surface.ArrayLengths
import ShaderSurface.Proofs.Surface.ArrayMembers
import ShaderSurface.Proofs.Surface.Failures
import ShaderSurface.Proofs.Surface.Layouts
import ShaderSurface.Proofs.Surface.Naming
import ShaderSurface.Proofs.Surface.Preface
import ShaderSurface.Proofs.Surface.Preparation
