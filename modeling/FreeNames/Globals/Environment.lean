/-
Environments: the global names that places to run a program bring along.

Each environment lists the names that are only read and the names that may be
written to.  The built-in names, which need no environment, are those of the
language and those that servers and browsers share.
-/
import FreeNames.Globals.Basic

namespace FreeNames.Environment

/-- An environment from its read-only and its writable names. -/
def ofLists (readOnly writable : List String) : Globals :=
  (Globals.ofNames readOnly false).merge (Globals.ofNames writable true)

/-- The names of the language itself. -/
def builtin : Globals :=
  ofLists
    ["AggregateError", "Array", "ArrayBuffer", "Atomics", "BigInt", "BigInt64Array",
     "BigUint64Array", "Boolean", "DataView", "Date", "Error", "EvalError",
     "FinalizationRegistry", "Float32Array", "Float64Array", "Function", "Infinity",
     "Int16Array", "Int32Array", "Int8Array", "Intl", "JSON", "Map", "Math", "NaN", "Number",
     "Object", "Promise", "Proxy", "RangeError", "ReferenceError", "Reflect", "RegExp", "Set",
     "SharedArrayBuffer", "String", "Symbol", "SyntaxError", "TypeError", "URIError",
     "Uint16Array", "Uint32Array", "Uint8Array", "Uint8ClampedArray", "WeakMap", "WeakRef",
     "WeakSet", "decodeURI", "decodeURIComponent", "encodeURI", "encodeURIComponent", "escape",
     "eval", "globalThis", "isFinite", "isNaN", "parseFloat", "parseInt", "undefined", "unescape"]
    []

/-- The names of the fifth edition of the language. -/
def es5 : Globals :=
  ofLists
    ["Array", "Boolean", "Date", "Error", "EvalError", "Function", "Infinity", "Intl", "JSON",
     "Math", "NaN", "Number", "Object", "RangeError", "ReferenceError", "RegExp", "String",
     "SyntaxError", "TypeError", "URIError", "decodeURI", "decodeURIComponent", "encodeURI",
     "encodeURIComponent", "escape", "eval", "isFinite", "isNaN", "parseFloat", "parseInt",
     "undefined", "unescape"]
    []

/-- The names of the edition of 2015. -/
def es2015 : Globals :=
  ofLists
    ["Array", "ArrayBuffer", "Boolean", "DataView", "Date", "Error", "EvalError", "Float32Array",
     "Float64Array", "Function", "Infinity", "Int16Array", "Int32Array", "Int8Array", "Intl",
     "JSON", "Map", "Math", "NaN", "Number", "Object", "Promise", "Proxy", "RangeError",
     "ReferenceError", "Reflect", "RegExp", "Set", "String", "Symbol", "SyntaxError",
     "TypeError", "URIError", "Uint16Array", "Uint32Array", "Uint8Array", "Uint8ClampedArray",
     "WeakMap", "WeakSet", "decodeURI", "decodeURIComponent", "encodeURI", "encodeURIComponent",
     "escape", "eval", "isFinite", "isNaN", "parseFloat", "parseInt", "undefined", "unescape"]
    []

/-- The names of the edition of 2017. -/
def es2017 : Globals :=
  ofLists
    ["Array", "ArrayBuffer", "Atomics", "Boolean", "DataView", "Date", "Error", "EvalError",
     "Float32Array", "Float64Array", "Function", "Infinity", "Int16Array", "Int32Array",
     "Int8Array", "Intl", "JSON", "Map", "Math", "NaN", "Number", "Object", "Promise", "Proxy",
     "RangeError", "ReferenceError", "Reflect", "RegExp", "Set", "SharedArrayBuffer", "String",
     "Symbol", "SyntaxError", "TypeError", "URIError", "Uint16Array", "Uint32Array",
     "Uint8Array", "Uint8ClampedArray", "WeakMap", "WeakSet", "decodeURI", "decodeURIComponent",
     "encodeURI", "encodeURIComponent", "escape", "eval", "isFinite", "isNaN", "parseFloat",
     "parseInt", "undefined", "unescape"]
    []

/-- The names of a page in a browser; the handlers and a few others may be written to. -/
def browser : Globals :=
  ofLists
    ["AbortController", "AbortSignal", "AnalyserNode", "Animation", "AnimationEffect",
     "AnimationEvent", "AnimationPlaybackEvent", "AnimationTimeline", "Attr", "Audio",
     "AudioBuffer", "AudioBufferSourceNode", "AudioContext", "AudioDestinationNode",
     "AudioListener", "AudioNode", "AudioParam", "AudioParamMap", "AudioProcessingEvent",
     "AudioScheduledSourceNode", "AudioWorklet", "AudioWorkletNode", "BarProp",
     "BaseAudioContext", "BeforeUnloadEvent", "BiquadFilterNode", "Blob", "BlobEvent",
     "BroadcastChannel", "ByteLengthQueuingStrategy", "CDATASection", "CSS", "CSSAnimation",
     "CSSConditionRule", "CSSContainerRule", "CSSCounterStyleRule", "CSSFontFaceRule",
     "CSSGroupingRule", "CSSImportRule", "CSSKeyframeRule", "CSSKeyframesRule",
     "CSSLayerBlockRule", "CSSLayerStatementRule", "CSSMediaRule", "CSSNamespaceRule",
     "CSSPageRule", "CSSRule", "CSSRuleList", "CSSStyleDeclaration", "CSSStyleRule",
     "CSSStyleSheet", "CSSSupportsRule", "CSSTransition", "Cache", "CacheStorage",
     "CanvasCaptureMediaStreamTrack", "CanvasGradient", "CanvasPattern",
     "CanvasRenderingContext2D", "ChannelMergerNode", "ChannelSplitterNode", "CharacterData",
     "Clipboard", "ClipboardEvent", "ClipboardItem", "CloseEvent", "CompositionEvent",
     "CompressionStream", "ConstantSourceNode", "ConvolverNode", "CountQueuingStrategy",
     "Crypto", "CryptoKey", "CustomElementRegistry", "CustomEvent", "DOMException",
     "DOMImplementation", "DOMMatrix", "DOMMatrixReadOnly", "DOMParser", "DOMPoint",
     "DOMPointReadOnly", "DOMQuad", "DOMRect", "DOMRectReadOnly", "DOMStringList",
     "DOMStringMap", "DOMTokenList", "DataTransfer", "DataTransferItem", "DataTransferItemList",
     "DecompressionStream", "DelayNode", "DeviceMotionEvent", "DeviceOrientationEvent",
     "Document", "DocumentFragment", "DocumentTimeline", "DocumentType", "DragEvent",
     "DynamicsCompressorNode", "Element", "ElementInternals", "ErrorEvent", "Event",
     "EventSource", "EventTarget", "File", "FileList", "FileReader", "FileSystemDirectoryHandle",
     "FileSystemFileHandle", "FileSystemHandle", "FileSystemWritableFileStream", "FocusEvent",
     "FontFace", "FontFaceSet", "FontFaceSetLoadEvent", "FormData", "FormDataEvent", "GainNode",
     "Gamepad", "GamepadButton", "GamepadEvent", "Geolocation", "GeolocationCoordinates",
     "GeolocationPosition", "GeolocationPositionError", "HTMLAllCollection", "HTMLAnchorElement",
     "HTMLAreaElement", "HTMLAudioElement", "HTMLBRElement", "HTMLBaseElement",
     "HTMLBodyElement", "HTMLButtonElement", "HTMLCanvasElement", "HTMLCollection",
     "HTMLDListElement", "HTMLDataElement", "HTMLDataListElement", "HTMLDetailsElement",
     "HTMLDialogElement", "HTMLDirectoryElement", "HTMLDivElement", "HTMLDocument",
     "HTMLElement", "HTMLEmbedElement", "HTMLFieldSetElement", "HTMLFontElement",
     "HTMLFormControlsCollection", "HTMLFormElement", "HTMLFrameElement", "HTMLFrameSetElement",
     "HTMLHRElement", "HTMLHeadElement", "HTMLHeadingElement", "HTMLHtmlElement",
     "HTMLIFrameElement", "HTMLImageElement", "HTMLInputElement", "HTMLLIElement",
     "HTMLLabelElement", "HTMLLegendElement", "HTMLLinkElement", "HTMLMapElement",
     "HTMLMarqueeElement", "HTMLMediaElement", "HTMLMenuElement", "HTMLMetaElement",
     "HTMLMeterElement", "HTMLModElement", "HTMLOListElement", "HTMLObjectElement",
     "HTMLOptGroupElement", "HTMLOptionElement", "HTMLOptionsCollection", "HTMLOutputElement",
     "HTMLParagraphElement", "HTMLParamElement", "HTMLPictureElement", "HTMLPreElement",
     "HTMLProgressElement", "HTMLQuoteElement", "HTMLScriptElement", "HTMLSelectElement",
     "HTMLSlotElement", "HTMLSourceElement", "HTMLSpanElement", "HTMLStyleElement",
     "HTMLTableCaptionElement", "HTMLTableCellElement", "HTMLTableColElement",
     "HTMLTableElement", "HTMLTableRowElement", "HTMLTableSectionElement", "HTMLTemplateElement",
     "HTMLTextAreaElement", "HTMLTimeElement", "HTMLTitleElement", "HTMLTrackElement",
     "HTMLUListElement", "HTMLUnknownElement", "HTMLVideoElement", "HashChangeEvent", "Headers",
     "History", "IDBCursor", "IDBCursorWithValue", "IDBDatabase", "IDBFactory", "IDBIndex",
     "IDBKeyRange", "IDBObjectStore", "IDBOpenDBRequest", "IDBRequest", "IDBTransaction",
     "IDBVersionChangeEvent", "IIRFilterNode", "IdleDeadline", "Image", "ImageBitmap",
     "ImageBitmapRenderingContext", "ImageData", "InputDeviceInfo", "InputEvent",
     "IntersectionObserver", "IntersectionObserverEntry", "KeyboardEvent", "KeyframeEffect",
     "Location", "Lock", "LockManager", "MediaCapabilities", "MediaDeviceInfo", "MediaDevices",
     "MediaElementAudioSourceNode", "MediaEncryptedEvent", "MediaError", "MediaKeyMessageEvent",
     "MediaKeySession", "MediaKeyStatusMap", "MediaKeySystemAccess", "MediaKeys", "MediaList",
     "MediaMetadata", "MediaQueryList", "MediaQueryListEvent", "MediaRecorder", "MediaSession",
     "MediaSource", "MediaStream", "MediaStreamAudioDestinationNode",
     "MediaStreamAudioSourceNode", "MediaStreamTrack", "MediaStreamTrackEvent", "MessageChannel",
     "MessageEvent", "MessagePort", "MimeType", "MimeTypeArray", "MouseEvent",
     "MutationObserver", "MutationRecord", "NamedNodeMap", "NavigationPreloadManager",
     "Navigator", "NetworkInformation", "Node", "NodeFilter", "NodeIterator", "NodeList",
     "Notification", "OfflineAudioCompletionEvent", "OfflineAudioContext", "OffscreenCanvas",
     "OffscreenCanvasRenderingContext2D", "Option", "OscillatorNode", "PageTransitionEvent",
     "PannerNode", "Path2D", "Performance", "PerformanceEntry", "PerformanceEventTiming",
     "PerformanceMark", "PerformanceMeasure", "PerformanceNavigation",
     "PerformanceNavigationTiming", "PerformanceObserver", "PerformanceObserverEntryList",
     "PerformancePaintTiming", "PerformanceResourceTiming", "PerformanceServerTiming",
     "PerformanceTiming", "PeriodicWave", "PermissionStatus", "Permissions", "Plugin",
     "PluginArray", "PointerEvent", "PopStateEvent", "ProcessingInstruction", "ProgressEvent",
     "PromiseRejectionEvent", "PushManager", "PushSubscription", "PushSubscriptionOptions",
     "RTCCertificate", "RTCDTMFSender", "RTCDTMFToneChangeEvent", "RTCDataChannel",
     "RTCDataChannelEvent", "RTCIceCandidate", "RTCPeerConnection", "RTCPeerConnectionIceEvent",
     "RTCRtpReceiver", "RTCRtpSender", "RTCRtpTransceiver", "RTCSessionDescription",
     "RTCStatsReport", "RTCTrackEvent", "RadioNodeList", "Range", "ReadableByteStreamController",
     "ReadableStream", "ReadableStreamBYOBReader", "ReadableStreamBYOBRequest",
     "ReadableStreamDefaultController", "ReadableStreamDefaultReader", "Report",
     "ReportingObserver", "Request", "ResizeObserver", "ResizeObserverEntry", "Response",
     "SVGAElement", "SVGAngle", "SVGAnimateElement", "SVGAnimateMotionElement",
     "SVGAnimateTransformElement", "SVGAnimatedAngle", "SVGAnimatedBoolean",
     "SVGAnimatedEnumeration", "SVGAnimatedInteger", "SVGAnimatedLength",
     "SVGAnimatedLengthList", "SVGAnimatedNumber", "SVGAnimatedNumberList",
     "SVGAnimatedPreserveAspectRatio", "SVGAnimatedRect", "SVGAnimatedString",
     "SVGAnimatedTransformList", "SVGAnimationElement", "SVGCircleElement", "SVGClipPathElement",
     "SVGDefsElement", "SVGDescElement", "SVGElement", "SVGEllipseElement", "SVGFEBlendElement",
     "SVGFEColorMatrixElement", "SVGFEGaussianBlurElement", "SVGFilterElement",
     "SVGForeignObjectElement", "SVGGElement", "SVGGeometryElement", "SVGGradientElement",
     "SVGGraphicsElement", "SVGImageElement", "SVGLength", "SVGLengthList", "SVGLineElement",
     "SVGLinearGradientElement", "SVGMarkerElement", "SVGMaskElement", "SVGMatrix", "SVGNumber",
     "SVGNumberList", "SVGPathElement", "SVGPatternElement", "SVGPoint", "SVGPointList",
     "SVGPolygonElement", "SVGPolylineElement", "SVGPreserveAspectRatio",
     "SVGRadialGradientElement", "SVGRect", "SVGRectElement", "SVGSVGElement",
     "SVGScriptElement", "SVGStopElement", "SVGStringList", "SVGStyleElement",
     "SVGSwitchElement", "SVGSymbolElement", "SVGTSpanElement", "SVGTextContentElement",
     "SVGTextElement", "SVGTextPathElement", "SVGTextPositioningElement", "SVGTitleElement",
     "SVGTransform", "SVGTransformList", "SVGUnitTypes", "SVGUseElement", "SVGViewElement",
     "Screen", "ScreenOrientation", "ScriptProcessorNode", "SecurityPolicyViolationEvent",
     "Selection", "ServiceWorker", "ServiceWorkerContainer", "ServiceWorkerRegistration",
     "ShadowRoot", "SharedWorker", "SourceBuffer", "SourceBufferList", "SpeechSynthesis",
     "SpeechSynthesisEvent", "SpeechSynthesisUtterance", "SpeechSynthesisVoice", "StaticRange",
     "StereoPannerNode", "Storage", "StorageEvent", "StorageManager", "StyleSheet",
     "StyleSheetList", "SubmitEvent", "SubtleCrypto", "Text", "TextDecoder", "TextDecoderStream",
     "TextEncoder", "TextEncoderStream", "TextMetrics", "TextTrack", "TextTrackCue",
     "TextTrackCueList", "TextTrackList", "TimeRanges", "Touch", "TouchEvent", "TouchList",
     "TrackEvent", "TransformStream", "TransformStreamDefaultController", "TransitionEvent",
     "TreeWalker", "UIEvent", "URL", "URLPattern", "URLSearchParams", "VTTCue", "ValidityState",
     "VideoPlaybackQuality", "VisualViewport", "WaveShaperNode", "WebAssembly",
     "WebGL2RenderingContext", "WebGLActiveInfo", "WebGLBuffer", "WebGLContextEvent",
     "WebGLFramebuffer", "WebGLProgram", "WebGLQuery", "WebGLRenderbuffer",
     "WebGLRenderingContext", "WebGLSampler", "WebGLShader", "WebGLShaderPrecisionFormat",
     "WebGLSync", "WebGLTexture", "WebGLTransformFeedback", "WebGLUniformLocation",
     "WebGLVertexArrayObject", "WebSocket", "WebTransport", "WheelEvent", "Window", "Worker",
     "Worklet", "WritableStream", "WritableStreamDefaultController",
     "WritableStreamDefaultWriter", "XMLDocument", "XMLHttpRequest", "XMLHttpRequestEventTarget",
     "XMLHttpRequestUpload", "XMLSerializer", "XPathEvaluator", "XPathExpression", "XPathResult",
     "XSLTProcessor", "addEventListener", "alert", "atob", "blur", "btoa", "caches",
     "cancelAnimationFrame", "cancelIdleCallback", "clearInterval", "clearTimeout",
     "clientInformation", "close", "closed", "confirm", "console", "createImageBitmap", "crypto",
     "customElements", "devicePixelRatio", "dispatchEvent", "document", "event", "external",
     "fetch", "find", "focus", "frameElement", "frames", "getComputedStyle", "getSelection",
     "history", "indexedDB", "innerHeight", "innerWidth", "isSecureContext", "length",
     "localStorage", "location", "locationbar", "matchMedia", "menubar", "moveBy", "moveTo",
     "navigator", "offscreenBuffering", "open", "origin", "outerHeight", "outerWidth",
     "pageXOffset", "pageYOffset", "parent", "performance", "personalbar", "postMessage",
     "print", "prompt", "queueMicrotask", "removeEventListener", "reportError",
     "requestAnimationFrame", "requestIdleCallback", "resizeBy", "resizeTo", "screen",
     "screenLeft", "screenTop", "screenX", "screenY", "scroll", "scrollBy", "scrollTo",
     "scrollX", "scrollY", "scrollbars", "self", "sessionStorage", "setInterval", "setTimeout",
     "speechSynthesis", "statusbar", "stop", "structuredClone", "toolbar", "top",
     "visualViewport", "window"]
    ["name", "onabort", "onafterprint", "onanimationend", "onanimationiteration",
     "onanimationstart", "onbeforeprint", "onbeforeunload", "onblur", "oncanplay",
     "oncanplaythrough", "onchange", "onclick", "onclose", "oncontextmenu", "oncuechange",
     "ondblclick", "ondrag", "ondragend", "ondragenter", "ondragleave", "ondragover",
     "ondragstart", "ondrop", "ondurationchange", "onemptied", "onended", "onerror", "onfocus",
     "onhashchange", "oninput", "oninvalid", "onkeydown", "onkeypress", "onkeyup",
     "onlanguagechange", "onload", "onloadeddata", "onloadedmetadata", "onloadstart",
     "onmessage", "onmessageerror", "onmousedown", "onmouseenter", "onmouseleave", "onmousemove",
     "onmouseout", "onmouseover", "onmouseup", "onoffline", "ononline", "onpagehide",
     "onpageshow", "onpause", "onplay", "onplaying", "onpointercancel", "onpointerdown",
     "onpointerenter", "onpointerleave", "onpointermove", "onpointerout", "onpointerover",
     "onpointerup", "onpopstate", "onprogress", "onratechange", "onrejectionhandled", "onreset",
     "onresize", "onscroll", "onsearch", "onseeked", "onseeking", "onselect", "onstalled",
     "onstorage", "onsubmit", "onsuspend", "ontimeupdate", "ontoggle", "ontransitionend",
     "onunhandledrejection", "onunload", "onvolumechange", "onwaiting", "onwheel", "opener",
     "status"]

/-- The names of a server program. -/
def node : Globals :=
  ofLists
    ["AbortController", "AbortSignal", "Blob", "BroadcastChannel", "Buffer",
     "ByteLengthQueuingStrategy", "CompressionStream", "CountQueuingStrategy", "Crypto",
     "CryptoKey", "CustomEvent", "DOMException", "DecompressionStream", "Event", "EventTarget",
     "File", "FormData", "Headers", "Intl", "MessageChannel", "MessageEvent", "MessagePort",
     "Performance", "PerformanceEntry", "PerformanceMark", "PerformanceMeasure",
     "PerformanceObserver", "PerformanceObserverEntryList", "PerformanceResourceTiming",
     "ReadableByteStreamController", "ReadableStream", "ReadableStreamBYOBReader",
     "ReadableStreamBYOBRequest", "ReadableStreamDefaultController",
     "ReadableStreamDefaultReader", "Request", "Response", "SubtleCrypto", "TextDecoder",
     "TextDecoderStream", "TextEncoder", "TextEncoderStream", "TransformStream",
     "TransformStreamDefaultController", "URL", "URLSearchParams", "WebAssembly",
     "WritableStream", "WritableStreamDefaultController", "WritableStreamDefaultWriter",
     "__dirname", "__filename", "atob", "btoa", "clearImmediate", "clearInterval",
     "clearTimeout", "console", "crypto", "fetch", "global", "performance", "process",
     "queueMicrotask", "require", "setImmediate", "setInterval", "setTimeout", "structuredClone"]
    ["exports", "module"]

/-- The names a module sees when it is loaded by `require`. -/
def commonjs : Globals :=
  ofLists
    ["global", "require"]
    ["exports", "module"]

/-- The names that servers and browsers share. -/
def sharedNodeBrowser : Globals :=
  ofLists
    ["AbortController", "AbortSignal", "Blob", "BroadcastChannel", "ByteLengthQueuingStrategy",
     "CompressionStream", "CountQueuingStrategy", "Crypto", "CryptoKey", "CustomEvent",
     "DOMException", "DecompressionStream", "Event", "EventTarget", "File", "FormData",
     "Headers", "MessageChannel", "MessageEvent", "MessagePort", "Performance",
     "PerformanceEntry", "PerformanceMark", "PerformanceMeasure", "PerformanceObserver",
     "PerformanceObserverEntryList", "PerformanceResourceTiming", "ReadableByteStreamController",
     "ReadableStream", "ReadableStreamBYOBReader", "ReadableStreamBYOBRequest",
     "ReadableStreamDefaultController", "ReadableStreamDefaultReader", "Request", "Response",
     "SubtleCrypto", "TextDecoder", "TextDecoderStream", "TextEncoder", "TextEncoderStream",
     "TransformStream", "TransformStreamDefaultController", "URL", "URLSearchParams",
     "WebAssembly", "WritableStream", "WritableStreamDefaultController",
     "WritableStreamDefaultWriter", "atob", "btoa", "clearInterval", "clearTimeout", "console",
     "crypto", "fetch", "performance", "queueMicrotask", "setInterval", "setTimeout",
     "structuredClone"]
    []

/-- The names of a background worker. -/
def worker : Globals :=
  ofLists
    ["AbortController", "AbortSignal", "Blob", "BroadcastChannel", "ByteLengthQueuingStrategy",
     "Cache", "CacheStorage", "CanvasGradient", "CanvasPattern", "CloseEvent",
     "CompressionStream", "CountQueuingStrategy", "Crypto", "CryptoKey", "CustomEvent",
     "DOMException", "DOMMatrix", "DOMMatrixReadOnly", "DOMPoint", "DOMPointReadOnly", "DOMQuad",
     "DOMRect", "DOMRectReadOnly", "DOMStringList", "DecompressionStream",
     "DedicatedWorkerGlobalScope", "ErrorEvent", "Event", "EventSource", "EventTarget", "File",
     "FileList", "FileReader", "FileReaderSync", "FileSystemDirectoryHandle",
     "FileSystemFileHandle", "FileSystemHandle", "FileSystemWritableFileStream", "FontFace",
     "FontFaceSet", "FontFaceSetLoadEvent", "FormData", "Headers", "IDBCursor",
     "IDBCursorWithValue", "IDBDatabase", "IDBFactory", "IDBIndex", "IDBKeyRange",
     "IDBObjectStore", "IDBOpenDBRequest", "IDBRequest", "IDBTransaction",
     "IDBVersionChangeEvent", "ImageBitmap", "ImageBitmapRenderingContext", "ImageData", "Lock",
     "LockManager", "MediaCapabilities", "MessageChannel", "MessageEvent", "MessagePort",
     "NavigationPreloadManager", "NetworkInformation", "Notification", "OffscreenCanvas",
     "OffscreenCanvasRenderingContext2D", "Path2D", "Performance", "PerformanceEntry",
     "PerformanceMark", "PerformanceMeasure", "PerformanceObserver",
     "PerformanceObserverEntryList", "PerformanceResourceTiming", "PerformanceServerTiming",
     "PermissionStatus", "Permissions", "ProgressEvent", "PromiseRejectionEvent", "PushManager",
     "PushSubscription", "PushSubscriptionOptions", "ReadableByteStreamController",
     "ReadableStream", "ReadableStreamBYOBReader", "ReadableStreamBYOBRequest",
     "ReadableStreamDefaultController", "ReadableStreamDefaultReader", "Report",
     "ReportingObserver", "Request", "Response", "SecurityPolicyViolationEvent",
     "ServiceWorkerRegistration", "StorageManager", "SubtleCrypto", "TextDecoder",
     "TextDecoderStream", "TextEncoder", "TextEncoderStream", "TextMetrics", "TransformStream",
     "TransformStreamDefaultController", "URL", "URLPattern", "URLSearchParams", "WebAssembly",
     "WebGL2RenderingContext", "WebGLActiveInfo", "WebGLBuffer", "WebGLContextEvent",
     "WebGLFramebuffer", "WebGLProgram", "WebGLQuery", "WebGLRenderbuffer",
     "WebGLRenderingContext", "WebGLSampler", "WebGLShader", "WebGLShaderPrecisionFormat",
     "WebGLSync", "WebGLTexture", "WebGLTransformFeedback", "WebGLUniformLocation",
     "WebGLVertexArrayObject", "WebSocket", "WebTransport", "WorkerGlobalScope",
     "WorkerLocation", "WorkerNavigator", "WritableStream", "WritableStreamDefaultController",
     "WritableStreamDefaultWriter", "XMLHttpRequest", "XMLHttpRequestEventTarget",
     "XMLHttpRequestUpload", "addEventListener", "atob", "btoa", "caches",
     "cancelAnimationFrame", "clearInterval", "clearTimeout", "close", "console",
     "createImageBitmap", "crypto", "dispatchEvent", "fetch", "importScripts", "indexedDB",
     "isSecureContext", "location", "name", "navigator", "origin", "performance", "postMessage",
     "queueMicrotask", "removeEventListener", "reportError", "requestAnimationFrame", "self",
     "setInterval", "setTimeout", "structuredClone"]
    ["onerror", "onlanguagechange", "onmessage", "onmessageerror", "onrejectionhandled",
     "onunhandledrejection"]

/-- The names of a worker that serves requests. -/
def serviceworker : Globals :=
  ofLists
    ["AbortController", "AbortSignal", "Blob", "BroadcastChannel", "ByteLengthQueuingStrategy",
     "Cache", "CacheStorage", "CanvasGradient", "CanvasPattern", "Client", "Clients",
     "CloseEvent", "CompressionStream", "CountQueuingStrategy", "Crypto", "CryptoKey",
     "CustomEvent", "DOMException", "DOMMatrix", "DOMMatrixReadOnly", "DOMPoint",
     "DOMPointReadOnly", "DOMQuad", "DOMRect", "DOMRectReadOnly", "DOMStringList",
     "DecompressionStream", "ErrorEvent", "Event", "EventSource", "EventTarget",
     "ExtendableEvent", "ExtendableMessageEvent", "FetchEvent", "File", "FileList", "FileReader",
     "FileSystemDirectoryHandle", "FileSystemFileHandle", "FileSystemHandle",
     "FileSystemWritableFileStream", "FontFace", "FontFaceSet", "FontFaceSetLoadEvent",
     "FormData", "Headers", "IDBCursor", "IDBCursorWithValue", "IDBDatabase", "IDBFactory",
     "IDBIndex", "IDBKeyRange", "IDBObjectStore", "IDBOpenDBRequest", "IDBRequest",
     "IDBTransaction", "IDBVersionChangeEvent", "ImageBitmap", "ImageBitmapRenderingContext",
     "ImageData", "Lock", "LockManager", "MediaCapabilities", "MessageChannel", "MessageEvent",
     "MessagePort", "NavigationPreloadManager", "NetworkInformation", "Notification",
     "NotificationEvent", "OffscreenCanvas", "OffscreenCanvasRenderingContext2D", "Path2D",
     "Performance", "PerformanceEntry", "PerformanceMark", "PerformanceMeasure",
     "PerformanceObserver", "PerformanceObserverEntryList", "PerformanceResourceTiming",
     "PerformanceServerTiming", "PermissionStatus", "Permissions", "ProgressEvent",
     "PromiseRejectionEvent", "PushEvent", "PushManager", "PushMessageData", "PushSubscription",
     "PushSubscriptionOptions", "ReadableByteStreamController", "ReadableStream",
     "ReadableStreamBYOBReader", "ReadableStreamBYOBRequest", "ReadableStreamDefaultController",
     "ReadableStreamDefaultReader", "Report", "ReportingObserver", "Request", "Response",
     "SecurityPolicyViolationEvent", "ServiceWorker", "ServiceWorkerGlobalScope",
     "ServiceWorkerRegistration", "StorageManager", "SubtleCrypto", "TextDecoder",
     "TextDecoderStream", "TextEncoder", "TextEncoderStream", "TextMetrics", "TransformStream",
     "TransformStreamDefaultController", "URL", "URLPattern", "URLSearchParams", "WebAssembly",
     "WebGL2RenderingContext", "WebGLActiveInfo", "WebGLBuffer", "WebGLContextEvent",
     "WebGLFramebuffer", "WebGLProgram", "WebGLQuery", "WebGLRenderbuffer",
     "WebGLRenderingContext", "WebGLSampler", "WebGLShader", "WebGLShaderPrecisionFormat",
     "WebGLSync", "WebGLTexture", "WebGLTransformFeedback", "WebGLUniformLocation",
     "WebGLVertexArrayObject", "WebSocket", "WebTransport", "WindowClient", "WorkerGlobalScope",
     "WorkerLocation", "WorkerNavigator", "WritableStream", "WritableStreamDefaultController",
     "WritableStreamDefaultWriter", "XMLHttpRequest", "XMLHttpRequestEventTarget",
     "XMLHttpRequestUpload", "addEventListener", "atob", "btoa", "caches", "clearInterval",
     "clearTimeout", "clients", "console", "createImageBitmap", "crypto", "dispatchEvent",
     "fetch", "importScripts", "indexedDB", "isSecureContext", "location", "navigator", "origin",
     "performance", "queueMicrotask", "registration", "removeEventListener", "reportError",
     "self", "serviceWorker", "setInterval", "setTimeout", "skipWaiting", "structuredClone"]
    ["onactivate", "onerror", "onfetch", "oninstall", "onlanguagechange", "onmessage",
     "onmessageerror", "onnotificationclick", "onnotificationclose", "onpush",
     "onpushsubscriptionchange", "onrejectionhandled", "onunhandledrejection"]

/-- The names of asynchronous module definition. -/
def amd : Globals :=
  ofLists
    ["define", "require"]
    []

/-- Names of a test runner. -/
def mocha : Globals :=
  ofLists
    ["after", "afterEach", "before", "beforeEach", "context", "describe", "it", "mocha", "run",
     "setup", "specify", "suite", "suiteSetup", "suiteTeardown", "teardown", "test", "xcontext",
     "xdescribe", "xit", "xspecify"]
    []

/-- Names of a test runner. -/
def jasmine : Globals :=
  ofLists
    ["afterAll", "afterEach", "beforeAll", "beforeEach", "describe", "expect", "expectAsync",
     "fail", "fdescribe", "fit", "it", "jasmine", "pending", "runs", "spyOn", "spyOnProperty",
     "waits", "waitsFor", "xdescribe", "xit"]
    []

/-- Names of a test runner. -/
def jest : Globals :=
  ofLists
    ["afterAll", "afterEach", "beforeAll", "beforeEach", "describe", "expect", "fit", "it",
     "jest", "pit", "require", "test", "xdescribe", "xit", "xtest"]
    []

/-- Names of a test runner. -/
def qunit : Globals :=
  ofLists
    ["QUnit", "asyncTest", "deepEqual", "equal", "expect", "module", "notDeepEqual", "notEqual",
     "notOk", "notPropEqual", "notStrictEqual", "ok", "propEqual", "raises", "start", "stop",
     "strictEqual", "test", "throws"]
    []

/-- The two names of a page library. -/
def jquery : Globals :=
  ofLists
    ["$", "jQuery"]
    []

/-- The names of a database shell. -/
def mongo : Globals :=
  ofLists
    ["BulkWriteResult", "ISODate", "Mongo", "NumberInt", "NumberLong", "ObjectId", "PlanCache",
     "UUID", "WriteResult", "_isWindows", "_rand", "cat", "cd", "connect", "db", "getHostName",
     "getMemInfo", "hostname", "listFiles", "load", "ls", "md5sumFile", "mkdir", "pwd", "quit",
     "removeFile", "rs", "sh", "version"]
    []

/-- The names of a browser without a window. -/
def phantomjs : Globals :=
  ofLists
    ["WebPage", "console", "exports", "phantom", "require"]
    []

/-- The names of a browser extension. -/
def webextensions : Globals :=
  ofLists
    ["browser", "chrome", "opr"]
    []

/-- The names of a user script. -/
def greasemonkey : Globals :=
  ofLists
    ["GM", "GM_addStyle", "GM_deleteValue", "GM_getResourceText", "GM_getResourceURL",
     "GM_getValue", "GM_info", "GM_listValues", "GM_log", "GM_openInTab",
     "GM_registerMenuCommand", "GM_setClipboard", "GM_setValue", "GM_xmlhttpRequest",
     "cloneInto", "createObjectIn", "exportFunction", "unsafeWindow"]
    []

/-- Names of test helpers. -/
def embertest : Globals :=
  ofLists
    ["andThen", "click", "currentPath", "currentRouteName", "currentURL", "fillIn", "find",
     "findAll", "findWithAssert", "keyEvent", "pauseTest", "resumeTest", "triggerEvent", "visit",
     "wait"]
    []

/-- Names of an end to end test runner. -/
def protractor : Globals :=
  ofLists
    ["$", "$$", "By", "DartObject", "browser", "by", "element", "protractor"]
    []

/-- All environments by name. -/
def table : List (String × Globals) :=
  [("builtin", builtin), ("es5", es5), ("es2015", es2015), ("es2017", es2017),
   ("browser", browser), ("node", node), ("commonjs", commonjs),
   ("shared-node-browser", sharedNodeBrowser), ("worker", worker),
   ("serviceworker", serviceworker), ("amd", amd), ("mocha", mocha), ("jasmine", jasmine),
   ("jest", jest), ("qunit", qunit), ("jquery", jquery), ("mongo", mongo),
   ("phantomjs", phantomjs), ("webextensions", webextensions), ("greasemonkey", greasemonkey),
   ("embertest", embertest), ("protractor", protractor)]

/-- The environment of a name. -/
def find? (name : String) : Option Globals := table.lookup name

/-- The names of all environments in rising order of their code points. -/
def names : List String := (table.map (·.1)).mergeSort fun a b => !(b < a)

/-- The names that need no environment. -/
def builtins : Globals := builtin.merge sharedNodeBrowser

end FreeNames.Environment
