import SessionRelay.Backplane.Envelope
import SessionRelay.Mcp.Operation

/-!
# Types with a form on the wire

Every type that is both read and written, with its reader and its writer.
-/

namespace SessionRelay

class WireForm (α : Type) where
  read : Decoder α
  write : α → Json

namespace WireForm

instance : WireForm Rpc.Message := ⟨Rpc.Message.decoder, Rpc.Message.toJson⟩

instance : WireForm Rpc.Request := ⟨Rpc.Request.ofJson, Rpc.Request.toJson⟩

instance : WireForm Rpc.Notification := ⟨Rpc.Notification.ofJson, Rpc.Notification.toJson⟩

instance : WireForm Rpc.Response := ⟨Rpc.Response.ofJson, Rpc.Response.toJson⟩

instance : WireForm Rpc.ErrorObject := ⟨Rpc.ErrorObject.ofJson, Rpc.ErrorObject.toJson⟩

instance : WireForm Rpc.Id := ⟨Rpc.Id.ofJson, Rpc.Id.toJson⟩

instance : WireForm Mcp.Content := ⟨Mcp.Content.ofJson, Mcp.Content.toJson⟩

instance : WireForm Mcp.Annotations := ⟨Mcp.Annotations.ofJson .document, Mcp.Annotations.toJson⟩

instance : WireForm Mcp.CallResult := ⟨Mcp.CallResult.ofJson, Mcp.CallResult.toJson⟩

instance : WireForm Mcp.ToolDefinition := ⟨Mcp.ToolDefinition.ofJson, Mcp.ToolDefinition.toJson⟩

instance : WireForm Mcp.ResourceDefinition :=
  ⟨Mcp.ResourceDefinition.ofJson, Mcp.ResourceDefinition.toJson⟩

instance : WireForm Mcp.ReadResult := ⟨Mcp.ReadResult.ofJson, Mcp.ReadResult.toJson⟩

instance : WireForm Mcp.CancelParams := ⟨Mcp.CancelParams.ofJson, Mcp.CancelParams.toJson⟩

instance : WireForm Mcp.Implementation := ⟨Mcp.Implementation.ofJson, Mcp.Implementation.toJson⟩

instance : WireForm Envelope := ⟨Envelope.ofJson, Envelope.toJson⟩

end WireForm

end SessionRelay
